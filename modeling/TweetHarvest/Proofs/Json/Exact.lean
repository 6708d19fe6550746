import Mathlib.Data.Rat.Floor
import TweetHarvest.Timeline.Record

/-!
# The exact values of numbers

A JSON number is a rational number: an integer is what it says, a double is the number of its units
over that of the units in one.  As a count it is this value without its fraction, brought into the
range of 64 bits.  So counts are exact as far as they fit, and they keep the order of the numbers,
in whichever way these are written.

## Key results

- `Number.toNat_asCount`: a number as a count
- `Number.asCount_of_natCast`, `Number.asCount_of_neg`, `Number.asCount_of_le`: integers, and the
  numbers below and above the range
- `Number.asCount_mono`: counts keep the order of the numbers
- `Number.exists_isInteger_iff`: the integers of 64 bits
-/

namespace TweetHarvest

/-- The exact value of a double. -/
def Binary64.exact (x : Binary64) : ℚ :=
  if x.negative then -(x.units / unitsPerOne : ℚ) else x.units / unitsPerOne

namespace Json

/-! ## Cutting off the fraction -/

/-- A number without its fraction. -/
def towardZero (q : ℚ) : ℤ := if q < 0 then ⌈q⌉ else ⌊q⌋

/-- An integer is not rounded. -/
@[simp] theorem towardZero_intCast (z : ℤ) : towardZero z = z := by
  rw [towardZero, Int.ceil_intCast, Int.floor_intCast, ite_self]

/-- A natural number is not rounded. -/
@[simp] theorem towardZero_natCast (n : ℕ) : towardZero n = n := towardZero_intCast n

/-- Numbers below zero are not rounded to one above it. -/
theorem towardZero_nonpos {q : ℚ} (h : q ≤ 0) : towardZero q ≤ 0 := by
  unfold towardZero
  split
  · exact Int.ceil_le.2 (by exact_mod_cast h)
  · next hq => simp [le_antisymm h (not_lt.1 hq)]

/-- Numbers above zero are not rounded to one below it. -/
theorem towardZero_nonneg {q : ℚ} (h : 0 ≤ q) : 0 ≤ towardZero q := by
  rw [towardZero, if_neg (not_lt.2 h)]
  exact Int.floor_nonneg.2 h

/-- Rounding toward zero keeps the order. -/
theorem towardZero_mono {q r : ℚ} (h : q ≤ r) : towardZero q ≤ towardZero r := by
  rcases lt_or_ge q 0 with hq | hq
  · rcases lt_or_ge r 0 with hr | hr
    · rw [towardZero, towardZero, if_pos hq, if_pos hr]
      exact Int.ceil_le_ceil h
    -- The two have zero between them
    · exact (towardZero_nonpos hq.le).trans (towardZero_nonneg hr)
  · rw [towardZero, towardZero, if_neg (not_lt.2 hq), if_neg (not_lt.2 (hq.trans h))]
    exact Int.floor_le_floor h

namespace Number

/-! ## Exact values -/

/-- The exact value of a number. -/
def exact : Number → ℚ
  | .unsigned n => n.toNat
  | .negative n => -(n.val + 1)
  | .float x => x.exact

/-- An integer that fits into 64 bits, with a sign or without one. -/
def IsInteger : Number → Prop
  | .unsigned _ | .negative _ => True
  | .float _ => False

/-- The integers of 64 bits are those from `-2 ^ 63` up to `2 ^ 64`. -/
theorem exists_isInteger_iff {z : ℤ} :
    (∃ n : Number, n.IsInteger ∧ n.exact = z) ↔ -2 ^ 63 ≤ z ∧ z < 2 ^ 64 := by
  constructor
  · rintro ⟨n, hn, hz⟩
    cases n with
    | unsigned n =>
      rw [exact] at hz
      -- The integers of the numbers without a sign are below `2 ^ 64`
      obtain rfl : (n.toNat : ℤ) = z := by exact_mod_cast hz
      have hlt := n.toNat_lt
      omega
    | negative n =>
      have hcast : ((-(n.val + 1) : ℤ) : ℚ) = z := by
        rw [← hz, exact]
        push_cast
        rfl
      obtain rfl := Int.cast_injective hcast
      -- Those with a sign start at `-2 ^ 63`
      have hlt : n.val < 9223372036854775808 := n.isLt
      omega
    | float x => exact hn.elim
  · rintro ⟨hlow, hhigh⟩
    -- Each integer has a form of its own: with a sign below zero, without one from zero on
    rcases lt_or_ge z 0 with hz | hz
    · obtain ⟨m, rfl⟩ : ∃ m : ℕ, z = -(m + 1) := ⟨(-z - 1).toNat, by omega⟩
      have hm : m < negativeCount := by
        show m < 9223372036854775808
        omega
      exact ⟨.negative ⟨m, hm⟩, trivial, by simp [exact]⟩
    · obtain ⟨m, rfl⟩ := Int.eq_ofNat_of_zero_le hz
      have hm : m.toUInt64.toNat = m := by
        rw [Nat.toUInt64_eq, UInt64.toNat_ofNat']
        omega
      exact ⟨.unsigned m.toUInt64, trivial, by simp [exact, hm]⟩

end Number

end Json

/-! ## Counts -/

/-- Without its sign, a double is not negative. -/
theorem Binary64.magnitude_nonneg (x : Binary64) : (0 : ℚ) ≤ x.units / unitsPerOne :=
  div_nonneg (Nat.cast_nonneg _) (Nat.cast_nonneg _)

namespace Json.Number

variable {n m : Number}

/-- A number as a count is its exact value without the fraction, brought into the range of 64
bits. -/
theorem toNat_asCount (n : Number) :
    (n.asCount.toNat : ℤ) = max 0 (min (2 ^ 64 - 1) (towardZero n.exact)) := by
  cases n with
  | unsigned n =>
    have hlt := n.toNat_lt
    rw [asCount, exact, towardZero_natCast]
    omega
  | negative n =>
    have hnonpos : towardZero (negative n).exact ≤ 0 := by
      apply towardZero_nonpos
      rw [exact, neg_nonpos]
      exact_mod_cast Nat.zero_le (n.val + 1)
    rw [asCount, UInt64.toNat_zero]
    omega
  | float x =>
    rw [asCount, exact, Binary64.truncate, Binary64.exact]
    split
    · have hnonpos := towardZero_nonpos (neg_nonpos.2 x.magnitude_nonneg)
      rw [UInt64.toNat_zero]
      omega
    -- The whole part of the magnitude is its quotient without the remainder
    · have hwhole : towardZero (x.units / Binary64.unitsPerOne : ℚ) = (x.whole : ℤ) := by
        rw [towardZero, if_neg (not_lt.2 x.magnitude_nonneg), Rat.floor_natCast_div_natCast]
        rfl
      have hsize : UInt64.size = 2 ^ 64 := rfl
      rw [hwhole, Nat.toUInt64_eq, UInt64.toNat_ofNat', hsize]
      omega

/-- Integers are exact as far as they fit, whether they are written as a double or not. -/
theorem asCount_of_natCast {k : ℕ} (hk : k < 2 ^ 64) (h : n.exact = k) :
    n.asCount.toNat = k := by
  have hcount := n.toNat_asCount
  rw [h, towardZero_natCast] at hcount
  omega

/-- Numbers below zero count as zero. -/
theorem asCount_of_neg (h : n.exact < 0) : n.asCount = 0 := by
  have hcount := n.toNat_asCount
  have hnonpos := towardZero_nonpos h.le
  rw [← UInt64.toNat_inj, UInt64.toNat_zero]
  omega

/-- Numbers beyond 64 bits count as the greatest one. -/
theorem asCount_of_le (h : 2 ^ 64 ≤ n.exact) : n.asCount.toNat = 2 ^ 64 - 1 := by
  have hcount := n.toNat_asCount
  have hlarge : ((2 ^ 64 : ℕ) : ℤ) ≤ towardZero n.exact := by
    rw [← towardZero_natCast]
    exact towardZero_mono (by exact_mod_cast h)
  push_cast at hlarge
  omega

/-- Counts keep the order of the numbers. -/
theorem asCount_mono (h : n.exact ≤ m.exact) : n.asCount ≤ m.asCount := by
  have hn := n.toNat_asCount
  have hm := m.toNat_asCount
  have hle := towardZero_mono h
  rw [UInt64.le_iff_toNat_le]
  omega

/-- Numbers count as zero if they are below one, and only then. -/
theorem asCount_eq_zero_iff : n.asCount = 0 ↔ n.exact < 1 := by
  have hcount := n.toNat_asCount
  rw [← UInt64.toNat_inj, UInt64.toNat_zero]
  constructor
  · intro h
    by_contra hge
    -- From one on, the number without its fraction is one at least
    have hone : towardZero ((1 : ℕ) : ℚ) ≤ towardZero n.exact :=
      towardZero_mono (by exact_mod_cast not_lt.1 hge)
    rw [towardZero_natCast] at hone
    omega
  · intro h
    have hzero : towardZero n.exact ≤ 0 := by
      -- Below zero the fraction is cut off upwards, above zero downwards
      rcases lt_or_ge n.exact 0 with hneg | hnonneg
      · exact towardZero_nonpos hneg.le
      · rw [towardZero, if_neg (not_lt.2 hnonneg)]
        exact Int.lt_add_one_iff.1 (Int.floor_lt.2 (by exact_mod_cast h))
    omega

end Json.Number

end TweetHarvest
