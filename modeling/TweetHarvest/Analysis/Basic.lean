import TweetHarvest.Envelope
import TweetHarvest.Files.System
import TweetHarvest.Text.Blank
import TweetHarvest.Text.Numeric
import TweetHarvest.Text.Utf8

/-!
# Analysis of shared files

A file is given by a path that is relative to the shared directory or leads into it by its own
name.  Whatever could lead out of the shared directory is refused before any file is looked at.

* `Statistics.ofChars`  the number of words and lines, and whether there are numeric characters
* `preview`             the start of a text
* `Analysis.resolve`    the file that an input names
* `Analysis.analyze`    the analysis of the file
* `Analysis.envelope`   its outcome for printing
-/

namespace TweetHarvest

open Json (Value)

/-- What is counted in a text. -/
structure Statistics where
  words : Nat
  lines : Nat
  hasNumbers : Bool
deriving DecidableEq, Repr

/-- The statistics of a text. -/
def Statistics.ofChars (s : List Char) : Statistics where
  words := (Text.words s).length
  lines := (Text.lines s).length
  hasNumbers := s.any Text.isNumeric

/-- How many characters of a text its preview shows. -/
def previewLength : Nat := 100

/-- The start of a text, with three dots if there is more. -/
def preview (s : List Char) : List Char :=
  let head := s.take previewLength
  if (s.drop previewLength).isEmpty then head else head ++ ['.', '.', '.']

/-- What is told about a file. -/
structure Analysis where
  /-- The path below the shared directory. -/
  input : String
  length : Nat
  preview : String
  statistics : Statistics
deriving DecidableEq, Repr

namespace Analysis

/-- Why a file is not analyzed. -/
inductive Fault where
  | notFound (input : String) (shared : Path) (available : List String)
  | outside (input : String)
  | unreadable (cause : FileFault)
deriving DecidableEq, Repr

/-- The wording of a fault. -/
def Fault.message : Fault → String
  | .notFound input shared _ => "Input file " ++ input ++ " not found in " ++ shared.text ++ "/"
  | .outside input => "Input file " ++ input ++ " must stay inside the shared directory"
  | .unreadable cause => "Error processing file: " ++ cause.message

/-- The part of an input below the shared directory: what follows the components of the shared
directory, or else the input without slashes in front. -/
def remainder (shared : Path) (input : String) : Path :=
  ((Path.ofText input).within? shared).getD
    (.ofText (String.ofList (input.toList.dropWhile (· = '/'))))

/-- Whether a component leads no further than down. -/
def isInner : Component → Bool
  | .normal _ | .current => true
  | .root | .parent => false

/-- The path of the file that an input names, and the name to show for it. -/
def resolve (shared : Path) (input : String) : Except Fault (Path × String) :=
  let rest := remainder shared input
  if rest.octets = [] || !rest.components.all isInner then .error (.outside input)
  else .ok (shared.join rest, rest.text)

/-- The analysis of a content. -/
def ofContent (input : String) (content : ByteArray) : Analysis :=
  let text := Utf8.lossy content.data.toList
  { input
    length := text.length
    preview := String.ofList (TweetHarvest.preview text)
    statistics := .ofChars text }

variable {m : Type → Type} [Monad m] (fs : FileSystem m)

/-- What is shown of the names in the shared directory, in ascending order; nothing if it cannot be
listed. -/
def available (shared : Path) : m (List String) := do
  match ← fs.names shared with
  | .ok names => return (names.map Utf8.shown).mergeSort (fun a b => !(b < a))
  | .error _ => return []

/-- Analyzes the file that an input names. -/
def analyze (shared : Path) (input : String) : m (Except Fault Analysis) := do
  match resolve shared input with
  | .error fault => return .error fault
  | .ok (path, shown) =>
    if ← fs.isFile path then
      return ((← fs.read path).mapError .unreadable).map (ofContent shown)
    else return .error (.notFound shown shared (← available fs shared))

/-- The statistics as JSON. -/
def statisticsValue (s : Statistics) : Value :=
  .sorted [("word_count", .nat s.words), ("line_count", .nat s.lines),
    ("has_numbers", .bool s.hasNumbers)]

/-- The outcome of an analysis for printing. -/
def describe : Except Fault Analysis → Envelope
  | .ok a =>
    (Envelope.success "File analyzed successfully")
      |>.withField "input_file" (.string a.input)
      |>.withField "content_length" (.nat a.length)
      |>.withField "content_preview" (.string a.preview)
      |>.withField "analysis" (statisticsValue a.statistics)
  | .error fault =>
    let e := Envelope.error fault.message
    match fault with
    | .notFound _ _ available =>
      e.withField "available_files" (.array (available.map Value.string))
    | _ => e

/-- Analyzes the file that an input names, if there is an input that is not blank. -/
def envelope (shared : Path) (input : Option String) : m Envelope := do
  match input.filter (!Text.isAllBlank ·) with
  | none => return .error "No input file provided"
  | some input => return describe (← analyze fs shared input)

end Analysis

end TweetHarvest
