import TweetHarvest.Files.Path
import TweetHarvest.Text.Digits

/-!
# Trees of files

A tree maps locations to entries; a location is the list of names that lead to it from the root,
which always is a directory.  There are no links, and operations follow one another.  A path is
walked segment by segment: every segment needs a directory to start from, two dots lead to the
directory above, and a name must be there, except where the last one is about to be made.

* `FileFault`           why an operation fails, with the system's wording
* `FileTree.get?`       the entry at a location
* `FileTree.put`, `FileTree.erase`  the two ways a tree changes
* `FileTree.walk`       the location that a path leads to
* `FileTree.makeDir`, `write`, `rename`, `removeFile`, `read`, `names`  the operations
-/

namespace TweetHarvest

/-- Why an operation on files fails. -/
inductive FileFault where
  | notFound
  | alreadyExists
  | notADirectory
  | isADirectory
  | nameTooLong
  | busy
  | invalidName
  | notText
  /-- Any other failure, with the system's number and words for it. -/
  | other (code : Nat) (words : String)
deriving DecidableEq, Repr

/-- The wording of a fault. -/
def FileFault.message : FileFault → String
  | .notFound => "No such file or directory (os error 2)"
  | .alreadyExists => "File exists (os error 17)"
  | .notADirectory => "Not a directory (os error 20)"
  | .isADirectory => "Is a directory (os error 21)"
  | .nameTooLong => "File name too long (os error 36)"
  | .busy => "Device or resource busy (os error 16)"
  | .invalidName => "file name contained an unexpected NUL byte"
  | .notText => "stream did not contain valid UTF-8"
  | .other code words => words ++ " (os error " ++ Decimal.text code ++ ")"

/-- What stands at a location. -/
inductive Entry where
  | file (content : ByteArray)
  | directory

/-- The names that lead to an entry. -/
abbrev Location := List (List UInt8)

/-- The location with names that are texts. -/
def Location.ofTexts (names : List String) : Location := names.map Utf8.octets

/-- A tree of files, as the list of its entries below the root. -/
structure FileTree where
  entries : List (Location × Entry)

namespace FileTree

/-- The tree with nothing below the root. -/
def empty : FileTree := ⟨[]⟩

/-- The entry at a location. -/
def get? (t : FileTree) (l : Location) : Option Entry :=
  if l = [] then some .directory else (t.entries.find? (·.1 = l)).map (·.2)

/-- The tree without the entry at a location. -/
def erase (t : FileTree) (l : Location) : FileTree :=
  ⟨t.entries.filter (·.1 ≠ l)⟩

/-- The tree with an entry at a location below the root. -/
def put (t : FileTree) (l : Location) (e : Entry) : FileTree :=
  ⟨(l, e) :: (t.erase l).entries⟩

/-- The greatest number of octets in a name. -/
def maxNameOctets : Nat := 255

/-- Follows one segment of a path; a name need not exist yet. -/
def follow (t : FileTree) (l : Location) (segment : List UInt8) : Except FileFault Location :=
  match t.get? l with
  | none => .error .notFound
  | some (.file _) => .error .notADirectory
  | some .directory =>
    if Path.isIdle segment then .ok l
    -- The root is above itself
    else if segment = [Path.dot, Path.dot] then .ok l.dropLast
    else if maxNameOctets < segment.length then .error .nameTooLong
    else .ok (l ++ [segment])

/-- Follows segments one after the other; what the last one names need not exist. -/
def followAll (t : FileTree) (l : Location) : List (List UInt8) → Except FileFault Location
  | [] => .ok l
  | segment :: rest => do
    let next ← t.follow l segment
    t.followAll next rest

/-- The location that a path leads to, seen from the directory `here`. -/
def walk (t : FileTree) (here : Location) (p : Path) : Except FileFault Location :=
  if p.octets = [] then .error .notFound
  else if p.octets.contains Path.null then .error .invalidName
  -- A relative path starts at the working directory
  else t.followAll (if p.isAbsolute then [] else here) (Path.segments p.octets)

/-- The entry that a path leads to. -/
def find (t : FileTree) (here : Location) (p : Path) : Except FileFault (Location × Entry) := do
  let l ← t.walk here p
  match t.get? l with
  | some e => .ok (l, e)
  | none => .error .notFound

/-- Whether a path leads to a directory. -/
def isDir (t : FileTree) (here : Location) (p : Path) : Bool :=
  match t.find here p with
  | .ok (_, .directory) => true
  | _ => false

/-- Whether a path leads to a file. -/
def isFile (t : FileTree) (here : Location) (p : Path) : Bool :=
  match t.find here p with
  | .ok (_, .file _) => true
  | _ => false

/-- The last segment of a path that is not empty, and the segments before it.  Slashes at the end
of a path are remembered by the flag. -/
def splitLast (s : List UInt8) : List (List UInt8) × List UInt8 × Bool :=
  match (Path.segments s).reverse.dropWhile (· = []) with
  | [] => ([], [], true)
  | last :: before => (before.reverse, last, s.getLast? = some Path.slash)

/-- The directory that a new entry would stand in, and its name.  The flag tells whether slashes
follow the name.  Fails with `special` where the path ends in dots. -/
def locate (t : FileTree) (here : Location) (p : Path) (special : FileFault) :
    Except FileFault (Location × Bool) := do
  if p.octets = [] then .error .notFound
  if p.octets.contains Path.null then .error .invalidName
  let (before, last, slashes) := splitLast p.octets
  let parent ← t.followAll (if p.isAbsolute then [] else here) before
  match t.get? parent with
  | none => .error .notFound
  | some (.file _) => .error .notADirectory
  | some .directory =>
    -- The dots at the end of a path name no entry of their own
    if Path.isIdle last || last = [Path.dot, Path.dot] then .error special
    else return (← t.follow parent last, slashes)

/-- Makes a directory; its parent must be there, and nothing of its name. -/
def makeDir (t : FileTree) (here : Location) (p : Path) : Except FileFault FileTree := do
  let (l, _) ← t.locate here p .alreadyExists
  match t.get? l with
  | some _ => .error .alreadyExists
  | none => .ok (t.put l .directory)

/-- Writes a whole file, new or not. -/
def write (t : FileTree) (here : Location) (p : Path) (content : ByteArray) :
    Except FileFault FileTree := do
  let (l, slashes) ← t.locate here p .isADirectory
  -- A slash at the end asks for a directory
  if slashes then .error .isADirectory
  match t.get? l with
  | some .directory => .error .isADirectory
  | _ => .ok (t.put l (.file content))

/-- Moves a file to another place, where a file may stand but no directory. -/
def rename (t : FileTree) (here : Location) (source target : Path) : Except FileFault FileTree := do
  let (old, _) ← t.locate here source .busy
  let (new, slashes) ← t.locate here target .busy
  match t.get? old with
  | none => .error .notFound
  | some .directory => .error .isADirectory
  | some (.file content) =>
    -- The file would have to be a directory there
    if slashes then .error .notADirectory
    match t.get? new with
    | some .directory => .error .isADirectory
    | _ => .ok ((t.erase old).put new (.file content))

/-- Removes a file. -/
def removeFile (t : FileTree) (here : Location) (p : Path) : Except FileFault FileTree := do
  let (l, slashes) ← t.locate here p .isADirectory
  match t.get? l with
  | none => .error .notFound
  | some .directory => .error .isADirectory
  | some (.file _) => if slashes then .error .notADirectory else .ok (t.erase l)

/-- The content of a file. -/
def read (t : FileTree) (here : Location) (p : Path) : Except FileFault ByteArray := do
  match ← t.find here p with
  | (_, .file content) => .ok content
  | (_, .directory) => .error .isADirectory

/-- The names in a directory, in no particular order. -/
def names (t : FileTree) (here : Location) (p : Path) : Except FileFault (List (List UInt8)) := do
  match ← t.find here p with
  | (_, .file _) => .error .notADirectory
  | (l, .directory) =>
    -- The entries one level below
    return t.entries.filterMap fun (m, _) => if m.dropLast = l then m.getLast? else none

/-! ### Entries after a change -/

/-- Erasing a location leaves every other one. -/
theorem get?_erase_of_ne (t : FileTree) {l m : Location} (h : m ≠ l) :
    (t.erase l).get? m = t.get? m := by
  simp only [get?, erase, List.find?_filter]
  split
  · rfl
  · congr 2
    funext x
    by_cases same : x.1 = m <;> simp [same, h]

/-- Nothing stands at a location that has been erased. -/
theorem get?_erase_self (t : FileTree) {l : Location} (h : l ≠ []) :
    (t.erase l).get? l = none := by
  simp [get?, erase, h, List.find?_filter]

/-- What is put at a location stands there. -/
theorem get?_put_self (t : FileTree) {l : Location} (h : l ≠ []) (e : Entry) :
    (t.put l e).get? l = some e := by
  simp [get?, put, h]

/-- Putting an entry at a location leaves every other one. -/
theorem get?_put_of_ne (t : FileTree) {l m : Location} (h : m ≠ l) (e : Entry) :
    (t.put l e).get? m = t.get? m := by
  rw [← get?_erase_of_ne t h]
  simp [get?, put, Ne.symm h]

end FileTree

end TweetHarvest
