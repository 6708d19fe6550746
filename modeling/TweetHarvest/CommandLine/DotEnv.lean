import TweetHarvest.Environment
import TweetHarvest.Text.Utf8

/-!
# Files of variables

A file of variables has one assignment a line.  A value may be quoted in part: single quotes take
everything literally, double quotes allow escapes and the values of other variables behind a dollar
sign.  Outside of quotes a blank ends the value, and only a comment may follow.  Reading stops at
the first line that is no assignment.

* `DotEnv.readLine`    the assignment of a line
* `DotEnv.load`        an environment with the variables of a file added
-/

namespace TweetHarvest.DotEnv

/-- Where a value is being read. -/
inductive Mode where
  | plain
  | escaped
  | singleQuoted
  | doubleQuoted
  | doubleEscaped
  /-- Behind a dollar sign, with the name so far. -/
  | name (quoted : Bool) (chars : List Char)
  /-- Behind a dollar sign and a brace, with the name so far. -/
  | braced (quoted : Bool) (chars : List Char)
  /-- Behind a blank that ended the value. -/
  | ended
  /-- Behind the sign of a comment. -/
  | comment

/-- The mode in which the text around a variable is read. -/
def Mode.outside (quoted : Bool) : Mode := if quoted then .doubleQuoted else .plain

/-- The character that stands for itself or a line feed behind a backslash. -/
def unescape? (c : Char) : Option Char :=
  if ['\\', '\'', '"', '$', ' '].contains c then some c
  else if c = 'n' then some '\n'
  else none

/-- Reads one character of a value: the mode after it and what it adds to the value. -/
def step (lookUp : String → String) (mode : Mode) (c : Char) : Option (Mode × List Char) :=
  let valueOf (chars : List Char) := (lookUp (String.ofList chars)).toList
  match mode with
  | .comment => some (.comment, [])
  | .ended =>
    if c = ' ' || c = '\t' then some (.ended, [])
    else if c = '#' then some (.comment, [])
    else none
  | .escaped => (unescape? c).map fun e => (.plain, [e])
  | .doubleEscaped => (unescape? c).map fun e => (.doubleQuoted, [e])
  | .singleQuoted => some (if c = '\'' then (.plain, []) else (.singleQuoted, [c]))
  | .name quoted chars =>
    if c.isAlphanum then some (.name quoted (chars ++ [c]), [])
    else if c = '\x7b' && chars.isEmpty then some (.braced quoted [], [])
    -- Another variable follows at once
    else if c = '$' then some (.name quoted [], valueOf chars)
    else some (.outside quoted, valueOf chars ++ [c])
  | .braced quoted chars =>
    if c = '\x7d' then some (.outside quoted, valueOf chars)
    else some (.braced quoted (chars ++ [c]), [])
  | .doubleQuoted =>
    if c = '$' then some (.name true [], [])
    else if c = '"' then some (.plain, [])
    else if c = '\\' then some (.doubleEscaped, [])
    else some (.doubleQuoted, [c])
  | .plain =>
    if c = '$' then some (.name false [], [])
    else if c = '\'' then some (.singleQuoted, [])
    else if c = '"' then some (.doubleQuoted, [])
    else if c = '\\' then some (.escaped, [])
    else if c = ' ' || c = '\t' then some (.ended, [])
    else some (.plain, [c])

/-- What the end of the line adds to the value; quotes and braces have to be closed. -/
def finish (lookUp : String → String) : Mode → Option (List Char)
  | .singleQuoted | .doubleQuoted | .doubleEscaped | .braced _ _ | .name true _ => none
  | .name false chars => some (lookUp (String.ofList chars)).toList
  | .plain | .escaped | .ended | .comment => some []

/-- Reads a value from a mode on. -/
def readValueFrom (lookUp : String → String) (mode : Mode) : List Char → Option (List Char)
  | [] => finish lookUp mode
  | c :: rest => do
    let (next, added) ← step lookUp mode c
    let tail ← readValueFrom lookUp next rest
    return added ++ tail

/-- Whether a character may stand in the name of a variable. -/
def isKeyChar (c : Char) : Bool := c.isAlphanum || c = '_' || c = '.'

/-- The name of a variable and what follows it and its blanks. -/
def readKey (s : List Char) : Option (List Char × List Char) :=
  if s.head?.any fun c => c.isAlpha || c = '_' then
    let (key, rest) := s.span isKeyChar
    some (key, rest.dropWhile Text.isBlank)
  else none

/-- The name and the text of the value of an assignment; the word `export` may stand in front. -/
def readAssignment (s : List Char) : Option (List Char × List Char) := do
  let (key, rest) ← readKey s
  match rest with
  | '=' :: value => return (key, value.dropWhile Text.isBlank)
  | _ =>
    if key = "export".toList then
      match ← readKey rest with
      | (key, '=' :: value) => return (key, value.dropWhile Text.isBlank)
      | _ => failure
    else failure

/-- What a line says. -/
inductive Line where
  | nothing
  | assignment (name value : String)
  | fault

/-- Reads a line. -/
def readLine (lookUp : String → String) (line : List Char) : Line :=
  let text := Text.trimChars line
  if text.isEmpty || text.head? = some '#' then .nothing
  else
    match readAssignment text with
    | none => .fault
    | some (key, value) =>
      -- A comment may take the place of the value
      if value.isEmpty || value.head? = some '#' then .assignment (String.ofList key) ""
      else
        match readValueFrom lookUp .plain value with
        | none => .fault
        | some value => .assignment (String.ofList key) (String.ofList value)

/-- Adds the variables of the lines, unless they are set already; `seen` are the assignments
before.  A line that is no text is no assignment. -/
def loadLines (env : Environment) (seen : Environment) : List (Option (List Char)) → Environment
  | [] => env
  | none :: _ => env
  | some line :: rest =>
    -- The environment wins over the lines before
    let lookUp name := ((env.get? name).or (seen.get? name)).getD ""
    match readLine lookUp line with
    | .nothing => loadLines env seen rest
    | .fault => env
    | .assignment name value =>
      loadLines (env.underlay name value) ⟨(name, value) :: seen.bindings⟩ rest

/-- A line without the carriage return at its end. -/
def dropReturn (line : List Char) : List Char :=
  if line.getLast? = some '\r' then line.dropLast else line

/-- The lines of a file, `none` for one that is no text. -/
def lines (content : ByteArray) : List (Option (List Char)) :=
  (Text.splitOn (some '\n') (Utf8.pieces content.data.toList)).map fun line =>
    (line.mapM id).map dropReturn

/-- An environment with the variables of a file added. -/
def load (env : Environment) (content : ByteArray) : Environment :=
  loadLines env ⟨[]⟩ (lines content)

end TweetHarvest.DotEnv
