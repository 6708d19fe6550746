import Std.Async.DNS
import Std.Async.TCP
import TweetHarvest.CommandLine.Program
import TweetHarvest.Service.Message

/-!
# The program on a real machine

Connects the program to the files, the clock, the network and the standard output of the system it
runs on.  Nothing is decided here.  The network speaks plain HTTP; hosts that ask for encryption
count as hosts that do not answer.

* `Host.machine`  the machine that the system is
* `main`          the program
-/

namespace TweetHarvest.Host

/-! ## Files -/

/-- The fault that an error of the system is. -/
def fileFault : IO.Error → FileFault
  | .noFileOrDirectory .. => .notFound
  | .alreadyExists .. => .alreadyExists
  | .resourceBusy .. => .busy
  | .inappropriateType _ 20 _ => .notADirectory
  | .inappropriateType .. => .isADirectory
  | .invalidArgument _ 36 _ => .nameTooLong
  | .permissionDenied _ code words | .invalidArgument _ code words
  | .resourceExhausted _ code words | .interrupted _ code words => .other code.toNat words
  | .unsupportedOperation code words | .unsatisfiedConstraints code words
  | .hardwareFault code words | .otherError code words => .other code.toNat words
  | rest => .other 5 rest.toString

/-- Does something with files; an error is a fault. -/
def attempt (action : IO α) : IO (Except FileFault α) := do
  match ← action.toBaseIO with
  | .ok result => return .ok result
  | .error cause => return .error (fileFault cause)

/-- The text that a path is.  The system is only ever given texts, so a path that is none is an error
there, and is not taken for the path that it is shown as. -/
def textOf (p : Path) : IO String :=
  if .ofText p.text = p then return p.text
  else throw (.otherError 84 "Invalid or incomplete multibyte or wide character")

/-- Whether something of a kind stands where a path leads. -/
def isOfType (kind : IO.FS.FileType) (p : Path) : IO Bool := do
  match ← (do (← IO.FS.realPath (← textOf p)).metadata : IO IO.FS.Metadata).toBaseIO with
  | .ok found => return found.type == kind
  | .error _ => return false

/-- The files of the system. -/
def files : FileSystem IO where
  makeDir p := attempt do IO.FS.createDir (← textOf p)
  write p content := attempt do IO.FS.writeBinFile (← textOf p) content
  rename source target := attempt do IO.FS.rename (← textOf source) (← textOf target)
  removeFile p := attempt do IO.FS.removeFile (← textOf p)
  read p := attempt do IO.FS.readBinFile (← textOf p)
  names p := attempt do
    let entries ← (← IO.FS.realPath (← textOf p)).readDir
    return entries.toList.map fun entry => Utf8.octets entry.fileName
  isDir := isOfType .dir
  isFile := isOfType .file

/-! ## Network -/

/-- What a host is looked up by. -/
def lookupName : Host → String
  | .ipv6 groups => String.ofList (Ipv6.text groups)
  | host => String.ofList host.text

/-- The socket at an address. -/
def socketAddress (port : UInt16) : Std.Net.IPAddr → Std.Net.SocketAddress
  | .v4 address => .v4 ⟨address, port⟩
  | .v6 address => .v6 ⟨address, port⟩

/-- The octets that arrive until the connection is closed. -/
partial def receiveAll (socket : Std.Async.TCP.Socket.Client) (before : ByteArray) :
    Std.Async.Async ByteArray := do
  match ← socket.recv? 65536 with
  | none => return before
  | some octets => receiveAll socket (before ++ octets)

/-- A connection to the first of the addresses that takes one. -/
def connectFirst (port : UInt16) :
    List Std.Net.IPAddr → Std.Async.Async Std.Async.TCP.Socket.Client
  | [] => throw (IO.userError "no address")
  | address :: rest => do
    let socket ← Std.Async.TCP.Socket.Client.mk
    try
      socket.connect (socketAddress port address)
      return socket
    catch _ => connectFirst port rest

/-- Sends octets to a host; the octets of the reply. -/
def exchange (host : String) (port : UInt16) (octets : ByteArray) : Std.Async.Async ByteArray := do
  let addresses ← Std.Async.DNS.getAddrInfo host ""
  let socket ← connectFirst port addresses.toList
  socket.send octets
  receiveAll socket .empty

/-- The port of a request under plain HTTP. -/
def plainPort? (r : Http.Request) (a : Authority) : Option UInt16 :=
  if r.url.scheme = "http".toList then some (a.port.getD 80).toUInt16 else none

/-- Sends a request. -/
def send (r : Http.Request) : IO Http.Outcome := do
  let unanswered := .failed (.unanswered r.url)
  let some a := r.url.authority | return unanswered
  let some port := plainPort? r a | return unanswered
  match ← (exchange (lookupName a.host) port r.octets).block.toBaseIO with
  | .error _ => return unanswered
  | .ok octets =>
    match Http.Message.read? octets.data.toList with
    | none => return unanswered
    | some (status, body) => return .reply status body

/-! ## Time -/

/-- The milliseconds of a day. -/
def dayMillis : Nat := 86400000

/-- Lets time pass, day by day. -/
def sleep (d : Duration) : IO Unit := do
  let millis := (d.nanos + 999999) / 1000000
  for _ in [0 : millis / dayMillis] do
    IO.sleep dayMillis.toUInt32
  IO.sleep (millis % dayMillis).toUInt32

/-- The start of 1970. -/
def epoch : Instant := ⟨0, 0, by decide, by decide⟩

/-- The time on the clock. -/
def now : IO Instant := do
  let nanos := (← Std.Time.Timestamp.now).toNanosecondsSinceUnixEpoch.toInt
  return (Instant.ofUnix? (nanos / nanosPerSecond) (nanos % nanosPerSecond).toNat).getD epoch

/-! ## The whole -/

/-- The machine that the system is. -/
def machine : Machine IO := ⟨send, sleep, now, files, IO.println⟩

/-- Where the system shows the variables of a program to it. -/
def variablesFile : String := "/proc/self/environ"

/-- The variables that are set. -/
def environment : IO Environment := do
  match ← (IO.FS.readBinFile variablesFile).toBaseIO with
  | .ok octets => return .ofEntries (Text.splitOn '\x00' (Utf8.lossy octets.data.toList))
  | .error _ => return ⟨[]⟩

end TweetHarvest.Host

/-- The program. -/
def main (args : List String) : IO UInt32 := do
  let here := (← IO.currentDir).toString
  let code ← TweetHarvest.Program.run TweetHarvest.Host.machine
    (← TweetHarvest.Host.environment) (.ofText here) args
  return code.toUInt32
