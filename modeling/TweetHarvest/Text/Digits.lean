/-!
# Decimal numerals and hexadecimal digits

Natural numbers written in decimal, unsigned numbers read back within a bound, and single
hexadecimal digits.

* `Decimal.digits`   the shortest numeral of a number
* `Decimal.value`    the number that a row of digits stands for
* `Decimal.read?`    an optional plus sign and at least one digit, below a limit
* `value_digits`     reading a numeral gives the number back
* `Hex.lower`, `Hex.upper`  the hexadecimal digit of a number below sixteen
* `Hex.value?`       the value of a hexadecimal digit of either case
-/

namespace TweetHarvest.Decimal

/-- The character of a digit below ten. -/
def digit (d : Nat) : Char :=
  Char.ofNat (48 + d)

/-- The numeral of `n` without leading zeros. -/
def digits (n : Nat) : List Char :=
  if n < 10 then [digit n] else digits (n / 10) ++ [digit (n % 10)]
termination_by n
decreasing_by omega

/-- The numeral of `n` as a text. -/
def text (n : Nat) : String :=
  String.ofList (digits n)

/-- The numeral of `n`, filled up with zeros on the left to at least `width` places. -/
def padded (width n : Nat) : List Char :=
  List.replicate (width - (digits n).length) '0' ++ digits n

/-- What a digit adds to the number read so far. -/
def extend (total : Nat) (c : Char) : Nat :=
  10 * total + (c.toNat - 48)

/-- The number that a row of digits stands for. -/
def value (ds : List Char) : Nat :=
  ds.foldl extend 0

/-- Reads an optional plus sign and one or more ASCII digits, leading zeros allowed, as a number
below `limit`. -/
def read? (limit : Nat) (s : List Char) : Option Nat :=
  let ds := match s with
    | '+' :: rest => rest
    | all => all
  if ds.isEmpty || !ds.all Char.isDigit then none
  else if value ds < limit then some (value ds) else none

/-- Digits follow one another from the zero on. -/
theorem toNat_digit {d : Nat} (h : d < 10) : (digit d).toNat = 48 + d := by
  have : ∀ d < 10, (digit d).toNat = 48 + d := by decide
  exact this d h

/-- The digit of a number below ten is a digit. -/
theorem isDigit_digit {d : Nat} (h : d < 10) : (digit d).isDigit = true := by
  have : ∀ d < 10, (digit d).isDigit = true := by decide
  exact this d h

/-- Every number has a digit. -/
theorem digits_ne_nil (n : Nat) : digits n ≠ [] := by
  fun_cases digits n <;> simp

/-- A numeral holds nothing but digits. -/
theorem all_isDigit_digits (n : Nat) : (digits n).all Char.isDigit = true := by
  fun_induction digits n with
  | case1 n small => simp [isDigit_digit small]
  | case2 n _ front => simp [front, isDigit_digit (Nat.mod_lt n (by decide : 0 < 10))]

/-- One more digit at the end of a row of digits. -/
theorem value_concat (ds : List Char) (c : Char) : value (ds ++ [c]) = extend (value ds) c := by
  simp [value]

/-- Reading a numeral gives the number back. -/
@[simp] theorem value_digits (n : Nat) : value (digits n) = n := by
  fun_induction digits n with
  | case1 n small => simp [value, extend, toNat_digit small]
  | case2 n _ front =>
    have last := toNat_digit (Nat.mod_lt n (by decide : 0 < 10))
    rw [value_concat, front, extend, last, Nat.add_sub_cancel_left, Nat.div_add_mod]

end TweetHarvest.Decimal

namespace TweetHarvest.Hex

/-- The lower-case digit of a number below sixteen. -/
def lower (d : Nat) : Char :=
  if d < 10 then Char.ofNat (48 + d) else Char.ofNat (87 + d)

/-- The upper-case digit of a number below sixteen. -/
def upper (d : Nat) : Char :=
  if d < 10 then Char.ofNat (48 + d) else Char.ofNat (55 + d)

/-- The value of a digit. -/
def value? (c : Char) : Option Nat :=
  if c.isDigit then some (c.toNat - 48)
  else if 'a' ≤ c && c ≤ 'f' then some (c.toNat - 87)
  else if 'A' ≤ c && c ≤ 'F' then some (c.toNat - 55)
  else none

/-- A small digit of base sixteen is read as its value. -/
theorem value?_lower {d : Nat} (h : d < 16) : value? (lower d) = some d := by
  have all : ∀ d < 16, value? (lower d) = some d := by decide
  exact all d h

/-- A capital digit of base sixteen is read as its value. -/
theorem value?_upper {d : Nat} (h : d < 16) : value? (upper d) = some d := by
  have all : ∀ d < 16, value? (upper d) = some d := by decide
  exact all d h

end TweetHarvest.Hex
