import TweetHarvest.Files.Name
import TweetHarvest.Files.System
import TweetHarvest.Report

/-!
# The archive of saved documents

Documents are saved as pretty JSON in the directory `reports` of the shared directory.  A document
is written under a hidden name first and then moved into place, so that its name never stands for a
part of it.

* `Archive.Fault`        why saving or loading fails
* `Archive.writeJson`    writes a value under a path, as a whole or not at all
* `Archive.saveReport`, `Archive.saveDump`, `Archive.loadReport`
-/

namespace TweetHarvest.Archive

open Json (Value)

/-- Why saving or loading fails. -/
inductive Fault where
  | directory (path : Path) (cause : FileFault)
  /-- The path does not end in a name. -/
  | unnamed (path : Path)
  | write (document : String) (path : Path) (cause : FileFault)
  | move (document : String) (path : Path) (cause : FileFault)
  | read (path : Path) (cause : FileFault)
  | parse (document : String) (cause : Json.Fault)
deriving DecidableEq, Repr

/-- The wording of a fault. -/
def Fault.message : Fault → String
  | .directory path _ => "Failed to create directory " ++ path.text
  | .unnamed path => "Invalid output path " ++ path.text
  | .write document path _ => "Failed to write " ++ document ++ " to " ++ path.text
  | .move document path _ =>
    "Failed to move " ++ document ++ " into place at " ++ path.text
  | .read path _ => "Failed to read report " ++ path.text
  | .parse document _ => "Failed to parse " ++ document ++ " from JSON"

/-- The fault of the file system underneath. -/
def Fault.fileFault? : Fault → Option FileFault
  | .directory _ cause | .write _ _ cause | .move _ _ cause | .read _ cause => some cause
  | .unnamed _ | .parse _ _ => none

/-- The messages of a fault, the outermost first. -/
def Fault.chain (f : Fault) : List String :=
  f.message :: (f.fileFault?.map FileFault.message).toList

/-- The name of the directory of saved documents. -/
def directoryName : String := "reports"

/-- The directory of saved documents in a shared directory. -/
def directory (shared : Path) : Path := shared.join (.ofText directoryName)

/-- The hidden name under which a document is written first. -/
def hiddenName (name : String) : String := "." ++ name ++ ".tmp"

/-- The hidden name beside the name of a file.  It is made of what is shown of that. -/
def hidden (name : List UInt8) : List UInt8 := Utf8.octets (hiddenName (Utf8.shown name))

variable {m : Type → Type} [Monad m] (fs : FileSystem m)

/-- Makes a directory and those above it. -/
def ensureDirectory (dir : Path) : m (Except Fault Unit) := do
  return (← fs.makeDirs dir).mapError (.directory dir)

/-- Writes a value under a path, by way of its hidden name; what is left under that name by a move
that fails is removed. -/
def writeJson (value : Value) (path : Path) (document : String) : m (Except Fault Unit) := do
  match path.fileName? with
  | none => return .error (.unnamed path)
  | some name =>
    let hiddenPath := path.withFileName (hidden name)
    match ← fs.write hiddenPath value.pretty.toUTF8 with
    | .error cause => return .error (.write document hiddenPath cause)
    | .ok () =>
      match ← fs.rename hiddenPath path with
      | .ok () => return .ok ()
      | .error cause =>
        -- Whether this succeeds is not asked
        let _ ← fs.removeFile hiddenPath
        return .error (.move document path cause)

/-- Writes a value under a cleaned name in a directory, which is made if it is missing. -/
def save (value : Value) (dir : Path) (name document : String) : m (Except Fault Path) := do
  match ← ensureDirectory fs dir with
  | .error fault => return .error fault
  | .ok () =>
    let path := FileName.place dir name
    return (← writeJson fs value path document).map fun _ => path

/-- Saves a report. -/
def saveReport (report : Report) (dir : Path) (time : Instant) : m (Except Fault Path) :=
  save fs report.toValue dir (Report.fileName report.metadata.username time) "report"

/-- Saves a raw dump. -/
def saveDump (dump : RawDump) (username : String) (dir : Path) (time : Instant) :
    m (Except Fault Path) :=
  save fs dump.toValue dir (RawDump.fileName username time) "raw dataset dump"

/-- The report in the content of a file. -/
def parseReport (text : String) : Except Fault Report :=
  (Json.decode Report.decoder text).mapError (.parse "report")

/-- Loads a report. -/
def loadReport (path : Path) : m (Except Fault Report) := do
  match ← fs.read path with
  | .error cause => return .error (.read path cause)
  | .ok content =>
    match String.fromUTF8? content with
    | none => return .error (.read path .notText)
    | some text => return parseReport text

end TweetHarvest.Archive
