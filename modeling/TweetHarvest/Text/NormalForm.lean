import TweetHarvest.Text.CombiningClass
import TweetHarvest.Text.Composition

/-!
# Normal form

One text can be written in several ways: with composed characters or with letters and marks, and
with marks that do not touch in any order.  The normal form is the composed one of Unicode: all
characters are split, the marks on a letter are put in the order of their classes, and what can be
composed is composed again.

* `Text.decompose`     a character as a letter with its marks
* `Text.orderMarks`    marks in the order of their classes; those of one class stay in their order
* `Text.composeMarks`  letters with the marks that they take up
* `Text.normalForm`    all three steps
-/

namespace TweetHarvest.Text

/-- How many marks a composed character holds at most, rounded up. -/
def greatestDepth : Nat := 4

/-- A character as a letter with at most `depth` marks. -/
def decompose : Nat → Char → List Char
  | 0, c => [c]
  | depth + 1, c =>
    match split? c with
    | some (first, second) => decompose depth first ++ [second]
    | none => [c]

/-- Puts a character in front of a text in order, behind the marks that have to come first. -/
def placeMark (c : Char) : List Char → List Char
  | [] => [c]
  | d :: rest =>
    if combiningClass d ≠ 0 && combiningClass d < combiningClass c then d :: placeMark c rest
    else c :: d :: rest

/-- Puts the marks on each letter in the order of their classes. -/
def orderMarks : List Char → List Char
  | [] => []
  | c :: rest => placeMark c (orderMarks rest)

/-- Whether a mark reaches the letter over the marks `kept`, the last of which comes first: it does
if there are none, or only such of a smaller class. -/
def reachesLetter (kept : List Char) (mark : Char) : Bool :=
  match kept with
  | [] => true
  | last :: _ => combiningClass last < combiningClass mark

/-- Composes `letter` with the marks that reach it; `kept` are those that it has not taken up. -/
def composeWith (letter : Char) (kept : List Char) : List Char → List Char
  | [] => letter :: kept.reverse
  | c :: rest =>
    match if reachesLetter kept c then compose? letter c else none with
    | some composed => composeWith composed kept rest
    | none =>
      if combiningClass c = 0 then letter :: kept.reverse ++ composeWith c [] rest
      else composeWith letter (c :: kept) rest

/-- Composes letters with the marks that they take up. -/
def composeMarks : List Char → List Char
  | [] => []
  | c :: rest => if combiningClass c = 0 then composeWith c [] rest else c :: composeMarks rest

/-- The normal form of a text. -/
def normalForm (s : List Char) : List Char :=
  composeMarks (orderMarks (s.flatMap (decompose greatestDepth)))

end TweetHarvest.Text
