import TweetHarvest.Json.Value
import TweetHarvest.Text.Digits

/-!
# Printing JSON

Two layouts of a value: compact, without any blank, and pretty, with two blanks of indentation a
level and empty containers closed at once.  Strings escape the quote, the backslash and the
characters below `U+0020`; all other characters stand for themselves.

* `Json.Value.compact`  one line
* `Json.Value.pretty`   one member a line
-/

namespace TweetHarvest.Json

/-- A character as it stands inside a string. -/
def escape (c : Char) : List Char :=
  if c = '"' then ['\\', '"']
  else if c = '\\' then ['\\', '\\']
  else if c = '\n' then ['\\', 'n']
  else if c = '\r' then ['\\', 'r']
  else if c = '\t' then ['\\', 't']
  else if c = '\x08' then ['\\', 'b']
  else if c = '\x0c' then ['\\', 'f']
  else if c.toNat < 0x20 then
    ['\\', 'u', '0', '0', Hex.lower (c.toNat / 16), Hex.lower (c.toNat % 16)]
  else [c]

/-- A text between quotes. -/
def quote (s : String) : List Char :=
  '"' :: s.toList.flatMap escape ++ ['"']

/-- The text of a number. -/
def Number.chars : Number → List Char
  | .unsigned n => Decimal.digits n.toNat
  | .negative n => '-' :: Decimal.digits (n.val + 1)
  | .float x => x.text

/-- The text of a truth value. -/
def boolChars (b : Bool) : List Char :=
  if b then ['t', 'r', 'u', 'e'] else ['f', 'a', 'l', 's', 'e']

mutual

/-- The compact layout. -/
def Value.compactChars : Value → List Char
  | .null => ['n', 'u', 'l', 'l']
  | .bool b => boolChars b
  | .number n => n.chars
  | .string s => quote s
  | .array items => '[' :: compactItems items ++ [']']
  | .object fields => '\x7b' :: compactFields fields ++ ['\x7d']

/-- The items of an array with commas in between. -/
def compactItems : List Value → List Char
  | [] => []
  | [v] => v.compactChars
  | v :: rest => v.compactChars ++ ',' :: compactItems rest

/-- The fields of an object with commas in between. -/
def compactFields : List (String × Value) → List Char
  | [] => []
  | [(k, v)] => quote k ++ ':' :: v.compactChars
  | (k, v) :: rest => quote k ++ ':' :: v.compactChars ++ ',' :: compactFields rest

end

/-- The start of a line at nesting level `depth`. -/
def newline (depth : Nat) : List Char :=
  '\n' :: List.replicate (2 * depth) ' '

mutual

/-- The pretty layout of a value that stands at nesting level `depth`. -/
def Value.prettyChars (depth : Nat) : Value → List Char
  | .null => ['n', 'u', 'l', 'l']
  | .bool b => boolChars b
  | .number n => n.chars
  | .string s => quote s
  | .array [] => ['[', ']']
  | .array (v :: rest) =>
    '[' :: prettyItems (depth + 1) (v :: rest) ++ newline depth ++ [']']
  | .object [] => ['\x7b', '\x7d']
  | .object (f :: rest) =>
    '\x7b' :: prettyFields (depth + 1) (f :: rest) ++ newline depth ++ ['\x7d']

/-- The items of an array, each on a line of its own. -/
def prettyItems (depth : Nat) : List Value → List Char
  | [] => []
  | [v] => newline depth ++ v.prettyChars depth
  | v :: rest => newline depth ++ v.prettyChars depth ++ ',' :: prettyItems depth rest

/-- The fields of an object, each on a line of its own. -/
def prettyFields (depth : Nat) : List (String × Value) → List Char
  | [] => []
  | [(k, v)] => newline depth ++ quote k ++ ':' :: ' ' :: v.prettyChars depth
  | (k, v) :: rest =>
    newline depth ++ quote k ++ ':' :: ' ' :: v.prettyChars depth ++
      ',' :: prettyFields depth rest

end

/-- The value on one line, without blanks. -/
def Value.compact (v : Value) : String := String.ofList v.compactChars

/-- The value with two blanks of indentation a level. -/
def Value.pretty (v : Value) : String := String.ofList (v.prettyChars 0)

end TweetHarvest.Json
