/-!
# Finite double-precision numbers

A finite double is a sign and a position: `ordinal` counts the non-negative finite doubles from
zero upwards.  Two neighbours differ by one in position, and the position is also the bit pattern
without the sign, so no combination of fields is without meaning.  Values are exact: the magnitude
is a natural number of units, where a unit is `2 ^ -1074`, the least positive double.

* `Binary64.unitsAt`         the value at a position, in units
* `Binary64.nearestOrdinal`  the position nearest to a ratio of units, ties to even
* `Binary64.ofDecimal?`      `significand * 10 ^ exponent` by one multiplication or by divisions
* `Binary64.truncate`        the integer part, clamped to 64 bits
-/

namespace TweetHarvest

/-- How many doubles there are from one power of two up to the next: `2 ^ 52`. -/
def Binary64.binadeSize : Nat := 4503599627370496

/-- How many non-negative doubles are finite. -/
def Binary64.count : Nat := 2047 * binadeSize

/-- A finite double-precision number. -/
structure Binary64 where
  negative : Bool
  ordinal : Fin Binary64.count
deriving DecidableEq, Repr

namespace Binary64

/-- The value at a position, in units of `2 ^ -1074`. -/
def unitsAt (k : Nat) : Nat :=
  if k < binadeSize then k else (binadeSize + k % binadeSize) <<< (k / binadeSize - 1)

/-- The number of units in one. -/
def unitsPerOne : Nat := 1 <<< 1074

/-- The magnitude in units. -/
def units (x : Binary64) : Nat := unitsAt x.ordinal

/-- Whether the number is positive or negative zero. -/
def isZero (x : Binary64) : Bool := x.ordinal.val == 0

/-- Zero of either sign. -/
def zero (negative : Bool) : Binary64 := ⟨negative, ⟨0, by decide⟩⟩

/-- `num / den` rounded to an integer, a half going to the even neighbour. -/
def roundHalfEven (num den : Nat) : Nat :=
  let whole := num / den
  let twice := 2 * (num % den)
  if twice < den then whole
  else if den < twice then whole + 1
  -- A half lies between two neighbours, one of which is even
  else if whole % 2 = 0 then whole else whole + 1

/-- The position whose value is nearest to `num / den` units, a tie going to the even position.
Rounding up to a power of two moves on to the next binade by itself, because positions continue
there. -/
def nearestOrdinal (num den : Nat) : Nat :=
  let whole := num / den
  if whole < 2 * binadeSize then roundHalfEven num den
  else
    -- Beyond the first two binades a position stands for `2 ^ shift` units
    let shift := whole.log2 - 52
    shift * binadeSize + roundHalfEven num (den <<< shift)

/-- The double nearest to `num / den` units, unless it is beyond the finite ones. -/
def ofUnits? (negative : Bool) (num den : Nat) : Option Binary64 :=
  let k := nearestOrdinal num den
  if h : k < count then some ⟨negative, ⟨k, h⟩⟩ else none

/-- The double nearest to a natural number. -/
def ofNat? (negative : Bool) (n : Nat) : Option Binary64 :=
  ofUnits? negative (n * unitsPerOne) 1

/-- The units of the double nearest to `10 ^ k`. -/
def powerOfTen (k : Nat) : Nat :=
  unitsAt (nearestOrdinal (Nat.pow 10 k * unitsPerOne) 1)

/-- The greatest power of ten that is a finite double. -/
def greatestPower : Nat := 308

/-- Divides `steps` times by the greatest power of ten, with a rounding each time; nothing is left
to do once the number is zero. -/
def divideOut (steps : Nat) (x : Binary64) : Option Binary64 :=
  match steps with
  | 0 => some x
  | steps + 1 =>
    if x.isZero then some x
    else (ofUnits? x.negative (x.units * unitsPerOne) (powerOfTen greatestPower)).bind
      (divideOut steps)

/-- Scales `x` by `10 ^ exponent`.  A positive exponent is one rounded product and a negative one a
rounded quotient, exponents below the least power being worked off in steps of `greatestPower`.  The
result is `none` where the magnitude would be infinite. -/
def scale? (x : Binary64) (exponent : Int) : Option Binary64 :=
  if x.isZero then some x
  else if exponent < 0 then
    let power := (-exponent).toNat
    -- All quotients but the last are by the greatest power
    let steps := (power - 1) / greatestPower
    (divideOut steps x).bind fun y =>
      ofUnits? y.negative (y.units * unitsPerOne) (powerOfTen (power - steps * greatestPower))
  else if exponent.toNat ≤ greatestPower then
    ofUnits? x.negative (x.units * powerOfTen exponent.toNat) unitsPerOne
  else none

/-- The double that `significand * 10 ^ exponent` is read as: the significand is rounded first and
then scaled. -/
def ofDecimal? (negative : Bool) (significand : Nat) (exponent : Int) : Option Binary64 :=
  match ofNat? negative significand with
  | none => none
  | some x => x.scale? exponent

/-- The integer part of the magnitude. -/
def whole (x : Binary64) : Nat := x.units / unitsPerOne

/-- The integer part, with negative numbers taken as zero and large ones as the greatest 64-bit
number. -/
def truncate (x : Binary64) : UInt64 :=
  if x.negative then 0 else (min x.whole (UInt64.size - 1)).toUInt64

end Binary64

end TweetHarvest
