import TweetHarvest.Binary64.Basic
import TweetHarvest.Text.Digits

/-!
# The shortest decimal of a double

A decimal reads back as a double when it lies between the midpoints to the two neighbours; the
midpoints themselves count when the position is even, since ties go to even.  The shortest decimal
is looked for on ever finer decimal grids: on each grid only the two points around the value can
be nearest, the first grid with a hit wins, and of two hits the nearer one, a tie going to the even
point.  All comparisons are between natural numbers.

* `Binary64.shortest`  the digits, without trailing zeros, and the power of ten they are scaled by
* `Binary64.text`      positional below `10 ^ 16` and from `10 ^ -5` on, else with an exponent
-/

namespace TweetHarvest.Binary64

/-- All positive doubles are at least ten in units of `10 ^ -343`. -/
def finestPlace : Nat := 343

/-- The value at a position and its two midpoints, as numerators over `2 ^ 1075` in units of
`10 ^ -343`. -/
structure Interval where
  low : Nat
  value : Nat
  high : Nat
  /-- Whether the two ends belong to the interval. -/
  closed : Bool

/-- The common denominator of an `Interval`. -/
def Interval.denominator : Nat := 2 * unitsPerOne

/-- The interval of the numbers that are read as the double at position `k`. -/
def interval (k : Nat) : Interval :=
  let unit := Nat.pow 10 finestPlace
  { low := (unitsAt (k - 1) + unitsAt k) * unit
    value := 2 * unitsAt k * unit
    high := (unitsAt k + unitsAt (k + 1)) * unit
    closed := k % 2 == 0 }

/-- Whether a numerator lies in the interval. -/
def Interval.holds (i : Interval) (x : Nat) : Bool :=
  if i.closed then i.low ≤ x && x ≤ i.high else i.low < x && x < i.high

/-- The point of the grid of width `step` that is nearest to the value among those in the
interval. -/
def Interval.pointOn? (i : Interval) (step : Nat) : Option Nat :=
  let width := step * Interval.denominator
  let below := i.value / width
  let toBelow := i.value - below * width
  let toAbove := (below + 1) * width - i.value
  match i.holds (below * width), i.holds ((below + 1) * width) with
  | true, true =>
    if toBelow < toAbove then some below
    else if toAbove < toBelow then some (below + 1)
    -- Of two points equally near, the even one
    else some (if below % 2 = 0 then below else below + 1)
  | true, false => some below
  | false, true => some (below + 1)
  | false, false => none

/-- Takes trailing zeros off `n`, adding their number to the exponent. -/
def stripZeros (n : Nat) (exponent : Int) : Nat × Int :=
  if n = 0 then (0, exponent)
  else if n % 10 = 0 then stripZeros (n / 10) (exponent + 1)
  else (n, exponent)
termination_by n
decreasing_by omega

/-- The shortest decimal `n * 10 ^ e` that is read as the double at position `k`, as the pair
`(n, e)`; seventeen digits always suffice. -/
def shortest (k : Nat) : Nat × Int :=
  let i := interval k
  let places := (Decimal.digits (i.value / Interval.denominator)).length
  -- The fewest digits for which there is a point
  let found := (List.range 17).findSome? fun n =>
    let dropped := places - (n + 1)
    (i.pointOn? (Nat.pow 10 dropped)).map fun point => (point, dropped)
  match found with
  | some (point, dropped) => stripZeros point ((dropped : Int) - finestPlace)
  | none => (0, 0)

/-- Writes the digits of a positive number `ds * 10 ^ exponent`: positional if its leading digit
stands at a place from `10 ^ -5` to `10 ^ 15`, else with an exponent that always shows its sign. -/
def layout (ds : List Char) (exponent : Int) : List Char :=
  let lead := ds.length - 1 + exponent
  if -5 ≤ lead && lead < 16 then
    if 0 ≤ exponent then ds ++ List.replicate exponent.toNat '0' ++ ['.', '0']
    -- The point stands among the digits, or behind zeros in front of them
    else if 0 ≤ lead then ds.take (lead + 1).toNat ++ '.' :: ds.drop (lead + 1).toNat
    else '0' :: '.' :: List.replicate (-lead - 1).toNat '0' ++ ds
  else
    let mantissa := match ds with
      | d :: rest@(_ :: _) => d :: '.' :: rest
      | single => single
    let sign := if lead < 0 then '-' else '+'
    mantissa ++ 'e' :: sign :: Decimal.digits lead.natAbs

/-- The text of a double: always with a point or an exponent, so that it is told from an
integer. -/
def text (x : Binary64) : List Char :=
  let magnitude :=
    if x.isZero then ['0', '.', '0']
    else
      let (n, e) := shortest x.ordinal
      layout (Decimal.digits n) e
  if x.negative then '-' :: magnitude else magnitude

end TweetHarvest.Binary64
