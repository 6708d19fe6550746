import TweetHarvest.Service.Http

/-!
# HTTP messages

The octets of an exchange on a connection that carries nothing else.  The request says that the
connection closes after it, so that a reply is all that comes until then; its body is what follows
the head, in pieces that tell their own size or as a whole.

* `Request.octets`        what is sent
* `Message.read?`         status and body of what has come back
-/

namespace TweetHarvest.Http

/-- The end of a line. -/
def lineEnd : String := "\r\n"

namespace Request

/-- The host and the port of a request as its header shows them. -/
def hostField (r : Request) : String :=
  String.ofList <| match r.url.authority with
    | none => []
    | some a => Authority.text { a with user := ⟨[], none⟩ }

/-- The lines in front of the body. -/
def headLines (r : Request) : List String :=
  [r.method.name ++ " " ++ r.url.target ++ " HTTP/1.1", "host: " ++ r.hostField,
    "authorization: " ++ r.authorization, "user-agent: " ++ userAgent, "accept: */*"] ++
  (r.contentType?.map ("content-type: " ++ ·)).toList ++
  (r.body.map fun body => "content-length: " ++ Decimal.text body.utf8ByteSize).toList ++
  ["connection: close"]

/-- What is sent: the lines of the head, an empty line, and the body. -/
def octets (r : Request) : ByteArray :=
  (String.join (r.headLines.map (· ++ lineEnd)) ++ lineEnd ++ r.body.getD "").toUTF8

end Request

namespace Message

/-! ## Lines -/

/-- The first line and what follows its end. -/
def cutLine? : List UInt8 → Option (List UInt8 × List UInt8)
  | [] => none
  | [_] => none
  | a :: b :: rest =>
    -- A carriage return alone does not end a line
    if a = 13 && b = 10 then some ([], rest)
    else (cutLine? (b :: rest)).map fun (line, after) => (a :: line, after)

/-- Cutting off a line leaves less. -/
theorem length_lt_of_cutLine? {s line rest : List UInt8} (h : cutLine? s = some (line, rest)) :
    rest.length < s.length := by
  fun_induction cutLine? s generalizing line with
  | case1 => cases h
  | case2 => cases h
  | case3 a b tail _ =>
    cases h
    simp only [List.length_cons]
    omega
  | case4 a b tail _ ih =>
    obtain ⟨⟨inner, after⟩, found, same⟩ := Option.map_eq_some_iff.1 h
    cases same
    have shorter := ih found
    simp only [List.length_cons] at shorter ⊢
    omega

/-- The lines up to the first empty one, and what follows it. -/
def cutHead? (s : List UInt8) : Option (List (List UInt8) × List UInt8) :=
  match _cut : cutLine? s with
  | none => none
  | some ([], rest) => some ([], rest)
  | some (line, rest) => (cutHead? rest).map fun (lines, after) => (line :: lines, after)
termination_by s.length
decreasing_by exact length_lt_of_cutLine? _cut

/-! ## Heads -/

/-- The head of a reply. -/
structure Head where
  status : Nat
  /-- Names in lower case, each with its value. -/
  fields : List (String × String)

/-- The text of octets that are each one character. -/
def latin (s : List UInt8) : List Char := s.map fun b => Char.ofNat b.toNat

/-- The status in the first line of a reply. -/
def status? (line : List Char) : Option Nat :=
  match Text.splitOn ' ' line with
  | _ :: code :: _ => Decimal.read? 1000 code
  | _ => none

/-- A line of the head as the name and the value of a field. -/
def field (line : List Char) : String × String :=
  (String.ofList ((line.takeWhile (· ≠ ':')).map Char.toLower),
    String.ofList (Text.trimChars ((line.dropWhile (· ≠ ':')).drop 1)))

/-- The head that lines make. -/
def Head.ofLines? (lines : List (List Char)) : Option Head :=
  match lines with
  | [] => none
  | first :: rest => (status? first).map fun status => ⟨status, rest.map field⟩

/-- The value of a field. -/
def Head.field? (h : Head) (name : String) : Option String :=
  (h.fields.find? (·.1 = name)).map (·.2)

/-! ## Bodies -/

/-- The number that hexadecimal digits stand for. -/
def hexValue (ds : List Char) : Nat := ds.foldl (fun n c => 16 * n + (Hex.value? c).getD 0) 0

/-- The size of a piece: the hexadecimal digits in front of its line. -/
def pieceSize? (line : List UInt8) : Option Nat :=
  let ds := (latin line).takeWhile fun c => (Hex.value? c).isSome
  if ds.isEmpty then none else some (hexValue ds)

/-- Puts a body in pieces together.  A line in front of each piece tells its size, a line end
follows it, and the size zero ends the body. -/
def unchunk? (s : List UInt8) : Option (List UInt8) :=
  match _cut : cutLine? s with
  | none => none
  | some (line, rest) =>
    match pieceSize? line with
    | none => none
    | some 0 => some []
    | some size =>
      if rest.length < size then none
      -- The line end behind the piece is dropped with it
      else (unchunk? (rest.drop (size + 2))).map (rest.take size ++ ·)
termination_by s.length
decreasing_by
  have shorter := length_lt_of_cutLine? _cut
  simp only [List.length_drop]
  omega

/-- The body behind a head; `none` if the connection broke off before its end. -/
def body? (h : Head) (rest : List UInt8) : Option (List UInt8) :=
  if h.field? "transfer-encoding" = some "chunked" then unchunk? rest
  else match h.field? "content-length" with
    -- Without a length, the body ends with the connection
    | none => some rest
    | some text => do
      let size ← Decimal.read? UInt64.size text.toList
      if rest.length < size then none else some (rest.take size)

/-- Reads a reply: its status and its body. -/
def read? (s : List UInt8) : Option (Nat × ByteArray) := do
  let (lines, rest) ← cutHead? s
  let head ← Head.ofLines? (lines.map latin)
  let body ← body? head rest
  return (head.status, ⟨body.toArray⟩)

end Message

end TweetHarvest.Http
