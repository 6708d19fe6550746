import TweetHarvest.Text.Blank
import TweetHarvest.Text.CombiningClass
import TweetHarvest.Text.Direction
import TweetHarvest.Text.Joining

/-!
# Labels of domain names

A label with characters beyond ASCII follows some rules.  It does not start with a mark.  The two
characters that join letters or keep them apart stand where they change the writing: behind a sign
that takes the vowel from a letter, and the one that keeps apart also between letters that would
join.  In a name with letters that run to the left every label keeps to one direction.

* `Label.isWellJoined`     the rule on joining
* `Label.keepsDirection`   the rule on directions
* `Label.isSound`          the rules on a label by itself
* `Label.followDirections` the rule on the labels of a name
-/

namespace TweetHarvest.Label

open Text (direction joining)

/-- The character that keeps letters apart. -/
def nonJoiner : Char := '\u200C'

/-- The character that joins letters. -/
def joiner : Char := '\u200D'

/-- How many characters a label beyond ASCII holds at most. -/
def maxLength : Nat := 1000

/-- How the nearest character that is not transparent joins. -/
def nearestJoining (s : List Char) : Joining :=
  match s.find? (joining · ≠ .transparent) with
  | some c => joining c
  | none => .never

/-- Whether letters would join across a place, `before` being the text in front of it in reverse
order. -/
def joinsAcross (before after : List Char) : Bool :=
  (nearestJoining before == .both || nearestJoining before == .behind) &&
    (nearestJoining after == .both || nearestJoining after == .before)

/-- Whether a character may stand between `before`, which is in reverse order, and `after`. -/
def mayStand (before : List Char) (c : Char) (after : List Char) : Bool :=
  if c = joiner || c = nonJoiner then
    match before with
    | [] => false
    -- Behind a virama either of them may stand
    | last :: _ =>
      Text.combiningClass last == Text.virama || c = nonJoiner && joinsAcross before after
  else true

/-- The rule on joining, for a text behind `before`, which is in reverse order. -/
def isJoinedBehind (before : List Char) : List Char → Bool
  | [] => true
  | c :: rest => mayStand before c rest && isJoinedBehind (c :: before) rest

/-- Whether the two characters for joining stand where they may. -/
def isWellJoined (label : List Char) : Bool := isJoinedBehind [] label

/-- Whether a label beyond ASCII follows the rules on a label by itself. -/
def isSound (label : List Char) : Bool :=
  !label.head?.any Text.isMark && isWellJoined label && label.length ≤ maxLength

/-- Whether a character makes its name one of two directions. -/
def turnsDirection (c : Char) : Bool :=
  direction c = .rightToLeft || direction c = .arabicNumber

/-- Whether the last character other than marks ends a label that runs to the right. -/
def endsToRight (c : Char) : Bool :=
  direction c = .leftToRight || direction c = .europeanNumber

/-- Whether the last character other than marks ends a label that runs to the left. -/
def endsToLeft (c : Char) : Bool :=
  turnsDirection c || direction c = .europeanNumber

/-- Whether a label keeps to the direction of its first character, and ends in it. -/
def keepsDirection (label : List Char) : Bool :=
  let text := Text.dropEndWhile (direction · = .nonspacing) label
  match label, text.getLast? with
  | first :: _, some last =>
    match direction first with
    | .leftToRight => endsToRight last && !text.any turnsDirection
    | .rightToLeft =>
      endsToLeft last && !text.any (direction · = .leftToRight) &&
        -- The two kinds of numbers are not mixed
        !(text.any (direction · = .europeanNumber) && text.any (direction · = .arabicNumber))
    | _ => false
  | [], _ => true
  | _, none => false

/-- Whether all labels of a name keep to their directions, if there are two in it. -/
def followDirections (labels : List (List Char)) : Bool :=
  !labels.any (·.any turnsDirection) || labels.all keepsDirection

end TweetHarvest.Label
