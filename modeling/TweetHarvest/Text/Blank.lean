/-!
# Blank characters

White space is the Unicode property `White_Space`, which is wider than the ASCII blanks: it holds
the no-break spaces, the line and paragraph separators and the ideographic space, but neither the
zero-width space nor the byte order mark.

* `isBlank`  membership in the property
* `trim`     a text without the blanks at its two ends
* `splitOn`  the pieces between the separators, always one more than there are separators
* `lines`    the lines of a text
* `words`    the maximal runs of non-blank characters of a text
-/

namespace TweetHarvest.Text

/-- The Unicode property `White_Space`. -/
def isBlank (c : Char) : Bool :=
  let n := c.toNat
  (0x09 ≤ n && n ≤ 0x0D) || n == 0x20 || n == 0x85 || n == 0xA0 || n == 0x1680 ||
  (0x2000 ≤ n && n ≤ 0x200A) || n == 0x2028 || n == 0x2029 || n == 0x202F || n == 0x205F ||
  n == 0x3000

/-- Drops the longest run at the end whose members all satisfy `p`. -/
def dropEndWhile (p : Char → Bool) (s : List Char) : List Char :=
  (s.reverse.dropWhile p).reverse

/-- A text without the blanks at its two ends. -/
def trimChars (s : List Char) : List Char :=
  dropEndWhile isBlank (s.dropWhile isBlank)

/-- A text without the blanks at its two ends. -/
def trim (s : String) : String :=
  String.ofList (trimChars s.toList)

/-- Whether a text holds nothing but blanks. -/
def isAllBlank (s : String) : Bool :=
  s.toList.all isBlank

/-- The trimmed text, if anything is left of it. -/
def trim? (s : String) : Option String :=
  if isAllBlank s then none else some (trim s)

/-- The pieces between the occurrences of `sep`; a text without `sep` is one piece. -/
def splitOn [DecidableEq α] (sep : α) : List α → List (List α)
  | [] => [[]]
  | c :: cs =>
    if c = sep then [] :: splitOn sep cs
    else match splitOn sep cs with
      | [] => [[c]]
      | piece :: pieces => (c :: piece) :: pieces

/-- Puts `sep` between the pieces: the inverse of `splitOn`. -/
def joinWith (sep : α) : List (List α) → List α
  | [] => []
  | [piece] => piece
  | piece :: pieces => piece ++ sep :: joinWith sep pieces

/-- A line without the carriage return that belongs to the line feed behind it. -/
def dropReturn (line : List Char) : List Char :=
  if line.getLast? = some '\r' then line.dropLast else line

/-- The lines of a text, without the line feed, or the carriage return and the line feed, that end
them.  What follows the last line feed is a line as well, as it stands, unless nothing follows. -/
def lines (s : List Char) : List (List Char) :=
  let pieces := splitOn '\n' s
  pieces.dropLast.map dropReturn ++ pieces.getLast?.toList.filter (!·.isEmpty)

/-- The maximal runs of non-blank characters. -/
def words (s : List Char) : List (List Char) :=
  (s.splitOnP isBlank).filter (!·.isEmpty)

/-- Even of an empty text there is one piece. -/
theorem splitOn_ne_nil [DecidableEq α] (sep : α) (s : List α) : splitOn sep s ≠ [] := by
  cases s with
  | nil => simp [splitOn]
  | cons c cs =>
    simp only [splitOn]
    split
    · simp
    · split <;> simp

/-- Joining the pieces of a text gives the text back. -/
theorem joinWith_splitOn [DecidableEq α] (sep : α) (s : List α) :
    joinWith sep (splitOn sep s) = s := by
  induction s with
  | nil => rfl
  | cons c cs ih =>
    have nonempty := splitOn_ne_nil sep cs
    simp only [splitOn]
    cases pieces : splitOn sep cs with
    | nil => exact absurd pieces nonempty
    | cons piece rest =>
      rw [pieces] at ih
      split
      · next same => subst same; simp [joinWith, ih]
      · cases rest with
        | nil => simp [joinWith] at ih ⊢; exact ih
        | cons next others => simp [joinWith] at ih ⊢; exact ih

end TweetHarvest.Text
