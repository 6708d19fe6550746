import Mathlib.Algebra.Group.Nat.Defs
import TweetHarvest.Text.Digits

/-!
# Numerals with zeros in front

The width of numerals that are filled up with zeros, and how numerals are read with zeros and a plus
sign in front of them.

## Key results

- `length_padded`: a padded numeral has the given width if the number fits in
- `value_padded`: padding does not change the number
- `read?_spelled`: a numeral with a plus sign and zeros in front is read
- `read?_eq_none_of_mem`: no other text is read than digits behind a plus sign
- `digits_eq_toDigits`: the numeral is the usual one
-/

namespace TweetHarvest.Decimal

/-- A number of at most `width` places has a numeral of that length. -/
theorem length_digits_le {width n : Nat} (hwidth : 0 < width) (h : n < 10 ^ width) :
    (digits n).length ≤ width := by
  induction width generalizing n with
  | zero => exact absurd hwidth (Nat.lt_irrefl 0)
  | succ width ih =>
    rw [digits]
    split
    · simp
    · next hlarge =>
      have hpos : 0 < width := by
        rcases Nat.eq_zero_or_pos width with rfl | hpos
        · omega
        · exact hpos
      -- The induction is on the width: one digit less is one place less
      have hfront : n / 10 < 10 ^ width := by
        rw [Nat.pow_succ] at h
        omega
      have hlength := ih hpos hfront
      simp only [List.length_append, List.length_singleton]
      omega

/-- A number that fits is padded to the width. -/
theorem length_padded {width n : Nat} (hwidth : 0 < width) (h : n < 10 ^ width) :
    (padded width n).length = width := by
  have hlength := length_digits_le hwidth h
  simp only [padded, List.length_append, List.length_replicate]
  omega

/-- Zeros in front do not change the number. -/
theorem value_replicate_zero (count : Nat) (ds : List Char) :
    value (List.replicate count '0' ++ ds) = value ds := by
  induction count with
  | zero => rfl
  | succ count ih =>
    rw [List.replicate_succ, List.cons_append, ← ih]
    rfl

/-- Padding does not change the value. -/
@[simp] theorem value_padded (width n : Nat) : value (padded width n) = n := by
  rw [padded, value_replicate_zero, value_digits]

/-- Padded to the same width, different numbers are different. -/
theorem padded_inj {width n m : Nat} : padded width n = padded width m ↔ n = m := by
  constructor
  · intro h
    have hvalue := congrArg value h
    rwa [value_padded, value_padded] at hvalue
  · rintro rfl
    rfl

/-- A padded numeral holds nothing but digits. -/
theorem isDigit_of_mem_padded {width n : Nat} {c : Char} (h : c ∈ padded width n) :
    c.isDigit = true := by
  rcases List.mem_append.1 h with h | h
  · obtain rfl := List.eq_of_mem_replicate h
    rfl
  · exact List.all_eq_true.1 (all_isDigit_digits n) c h

/-! ## Reading -/

/-- The numeral of a number is its text to base ten. -/
theorem digits_eq_toDigits (n : Nat) : digits n = Nat.toDigits 10 n := by
  have hdigit : ∀ d < 10, digit d = Nat.digitChar d := by decide
  fun_induction digits n with
  | case1 n hsmall => rw [Nat.toDigits_of_lt_base hsmall, hdigit n hsmall]
  | case2 n hlarge ih =>
    rw [Nat.toDigits_of_base_le (by decide) (by omega), ih, hdigit _ (Nat.mod_lt n (by decide))]

/-- Digits are read as their number, with or without a plus sign in front. -/
theorem read?_digits {limit : Nat} {sign ds : List Char} (hsign : sign = [] ∨ sign = ['+'])
    (hne : ds ≠ []) (hds : ds.all Char.isDigit = true) (h : value ds < limit) :
    read? limit (sign ++ ds) = some (value ds) := by
  obtain ⟨d, rest, rfl⟩ := List.exists_cons_of_ne_nil hne
  have hd : d ≠ '+' := by
    rintro rfl
    exact nomatch hds
  -- Whichever the sign, the digits are what is left behind it
  have hread : read? limit (sign ++ d :: rest) =
      if (d :: rest).isEmpty || !(d :: rest).all Char.isDigit then none
      else if value (d :: rest) < limit then some (value (d :: rest)) else none := by
    rcases hsign with rfl | rfl
    · simp only [read?, List.nil_append]
      split
      · next heq => exact absurd (List.cons.inj heq).1 hd
      · rfl
    · rfl
  rw [hread, hds, if_neg (by simp), if_pos h]

/-- A numeral is read with a plus sign and zeros in front of it. -/
theorem read?_spelled {limit n : Nat} {sign : List Char} (hsign : sign = [] ∨ sign = ['+'])
    (zeros : Nat) (h : n < limit) :
    read? limit (sign ++ (List.replicate zeros '0' ++ digits n)) = some n := by
  -- Zeros in front do not change the value
  have hvalue : value (List.replicate zeros '0' ++ digits n) = n := by
    rw [value_replicate_zero, value_digits]
  have hzeros : (List.replicate zeros '0').all Char.isDigit = true := by
    rw [List.all_eq_true]
    intro c hc
    obtain rfl := List.eq_of_mem_replicate hc
    rfl
  rw [read?_digits hsign (by simp [digits_ne_nil]) _ (by rwa [hvalue]), hvalue]
  rw [List.all_append, hzeros, all_isDigit_digits]
  rfl

/-- No text is read that holds anything but digits and a plus sign. -/
theorem read?_eq_none_of_mem {limit : Nat} {s : List Char} {c : Char} (h : c ∈ s)
    (hdigit : c.isDigit = false) (hplus : c ≠ '+') : read? limit s = none := by
  -- The character is not the sign, so it stands among the digits
  have hnone : ∀ ds : List Char, c ∈ ds → (ds.isEmpty || !ds.all Char.isDigit) = true := by
    intro ds hc
    have hall : ds.all Char.isDigit = false :=
      List.all_eq_false.2 ⟨c, hc, by simp [hdigit]⟩
    simp [hall]
  unfold read?
  split
  · next rest =>
    exact if_pos (hnone rest ((List.mem_cons.1 h).resolve_left hplus))
  · exact if_pos (hnone s h)

end TweetHarvest.Decimal
