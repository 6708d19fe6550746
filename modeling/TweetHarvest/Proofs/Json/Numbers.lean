import TweetHarvest.Json.Node
import TweetHarvest.Json.Printer
import TweetHarvest.Proofs.Outcome

/-!
# Reading printed numbers

The text of a number is a numeral: digits without a leading zero, and for a double a fraction or an
exponent behind them.  The reader takes a numeral for what it is and stops at its end.

## Key results

- `readNumber_text`: a well-formed numeral is read back
- `Binary64.exists_numeral`: the text of a double is a well-formed numeral
- `Binary64.mark_mem_text`: it is told from that of an integer by its point or exponent
- `Number.read_chars`: the text of a number is read as its numeral
-/

namespace TweetHarvest

namespace Json

/-! ## Numerals -/

/-- Reads a number with its sign. -/
def readNumber (s : List Char) : Except Break (Numeral × List Char) :=
  match s with
  | '-' :: rest => readNumeral true rest
  | s => readNumeral false s

/-- No character that could belong to a number comes first. -/
def Ends (rest : List Char) : Prop :=
  ∀ c, rest.head? = some c → c.isDigit = false ∧ c ≠ '.' ∧ c ≠ 'e' ∧ c ≠ 'E'

/-- A number may end with the text. -/
theorem ends_nil : Ends [] := fun _ h => nomatch h

/-- A number ends before a character that cannot continue it. -/
theorem ends_cons {c : Char} {rest : List Char}
    (h : c.isDigit = false ∧ c ≠ '.' ∧ c ≠ 'e' ∧ c ≠ 'E') : Ends (c :: rest) := by
  intro d hd
  obtain rfl := Option.some.inj hd
  exact h

/-- No digit comes first. -/
def EndsDigits (rest : List Char) : Prop := ∀ c, rest.head? = some c → c.isDigit = false

/-- Where a number ends, its digits end. -/
theorem Ends.endsDigits {rest : List Char} (h : Ends rest) : EndsDigits rest :=
  fun c hc => (h c hc).1

/-- Digits are read up to where they end. -/
theorem spanDigits_append {ds rest : List Char} (hds : ds.all Char.isDigit = true)
    (h : EndsDigits rest) : spanDigits (ds ++ rest) = (ds, rest) := by
  have hall : ∀ c ∈ ds, c.isDigit = true := List.all_eq_true.1 hds
  -- Nothing is taken from what follows, as no digit comes first there
  have hrest : rest.takeWhile Char.isDigit = [] ∧ rest.dropWhile Char.isDigit = rest := by
    cases rest with
    | nil => exact ⟨rfl, rfl⟩
    | cons c cs =>
      have hc := h c rfl
      simp [hc]
  rw [spanDigits, List.takeWhile_append_of_pos hall, List.dropWhile_append_of_pos hall, hrest.1,
    hrest.2, List.append_nil]

/-- Digits that can stand somewhere in a numeral. -/
def IsDigits (ds : List Char) : Prop := ds ≠ [] ∧ ds.all Char.isDigit = true

/-- The digits of a number are digits, and there is at least one. -/
theorem isDigits_digits (n : Nat) : IsDigits (Decimal.digits n) :=
  ⟨Decimal.digits_ne_nil n, Decimal.all_isDigit_digits n⟩

/-- The text of a fraction. -/
def fractionChars : Option (List Char) → List Char
  | none => []
  | some ds => '.' :: ds

/-- The text of an exponent, with its sign in any case. -/
def exponentChars : Option (Bool × List Char) → List Char
  | none => []
  | some (negative, ds) => 'e' :: (if negative then '-' else '+') :: ds

namespace Numeral

/-- The text of a numeral without its sign. -/
def chars (n : Numeral) : List Char :=
  n.whole ++ (fractionChars n.fraction ++ exponentChars n.exponent)

/-- The text of a numeral. -/
def text (n : Numeral) : List Char := if n.negative then '-' :: n.chars else n.chars

/-- The digits of a numeral are what they have to be. -/
structure WellFormed (n : Numeral) : Prop where
  whole : IsDigits n.whole
  no_leading_zero : n.whole.head? = some '0' → n.whole = ['0']
  fraction : ∀ ds, n.fraction = some ds → IsDigits ds
  exponent : ∀ negative ds, n.exponent = some (negative, ds) → IsDigits ds

end Numeral

/-! ## Reading a numeral -/

/-- Digits before the point are read up to their end. -/
private theorem readWhole_append {ds rest : List Char} (hds : IsDigits ds)
    (hzero : ds.head? = some '0' → ds = ['0']) (h : EndsDigits rest) :
    readWhole (ds ++ rest) = .ok (ds, rest) := by
  rw [readWhole, spanDigits_append hds.2 h]
  split
  · next heq => exact absurd (Prod.mk.inj heq).1 hds.1
  · next heq =>
    obtain ⟨rfl, -⟩ := Prod.mk.inj heq
    -- A zero in front of other digits is ruled out
    exact nomatch hzero rfl
  · next heq =>
    cases heq
    rfl

/-- A fraction is read up to its end, and no fraction is read where there is no point. -/
private theorem readFraction_append {fraction : Option (List Char)} {rest : List Char}
    (hds : ∀ ds, fraction = some ds → IsDigits ds) (h : EndsDigits rest)
    (hpoint : rest.head? ≠ some '.') :
    readFraction (fractionChars fraction ++ rest) = .ok (fraction, rest) := by
  -- Without a fraction, the reader must not find a point in what follows
  cases fraction with
  | none =>
    simp only [fractionChars, List.nil_append]
    unfold readFraction
    split
    · exact absurd rfl hpoint
    · rfl
  | some ds =>
    have hdigits := hds ds rfl
    rw [fractionChars, List.cons_append, readFraction, spanDigits_append hdigits.2 h]
    split
    · next heq => exact absurd (Prod.mk.inj heq).1 hdigits.1
    · next heq =>
      cases heq
      rfl

/-- An exponent is read up to its end, and no exponent is read where there is no letter for it. -/
private theorem readExponent_append {exponent : Option (Bool × List Char)} {rest : List Char}
    (hds : ∀ negative ds, exponent = some (negative, ds) → IsDigits ds) (h : Ends rest) :
    readExponent (exponentChars exponent ++ rest) = .ok (exponent, rest) := by
  rcases exponent with _ | ⟨negative, ds⟩
  · cases rest with
    | nil => rfl
    | cons c cs =>
      obtain ⟨-, -, he, hE⟩ := h c rfl
      simp only [exponentChars, List.nil_append, readExponent, he, hE, decide_false, Bool.or_self,
        Bool.false_eq_true, if_false]
  · have hdigits := hds negative ds rfl
    have hspan := spanDigits_append hdigits.2 h.endsDigits
    -- The sign is always there, and so is a digit
    obtain ⟨d, ds, rfl⟩ := List.exists_cons_of_ne_nil hdigits.1
    rw [List.cons_append] at hspan
    cases negative
    · simp [exponentChars, readExponent, hspan]
    · simp [exponentChars, readExponent, hspan]

/-- What follows the digits before the point. -/
private theorem endsDigits_exponentChars (exponent : Option (Bool × List Char)) {rest : List Char}
    (h : Ends rest) : EndsDigits (exponentChars exponent ++ rest) ∧
      (exponentChars exponent ++ rest).head? ≠ some '.' := by
  -- An exponent starts with its letter; without one, it is what follows that counts
  rcases exponent with _ | ⟨negative, ds⟩
  · exact ⟨h.endsDigits, fun hpoint => (h '.' hpoint).2.1 rfl⟩
  · constructor
    · intro c hc
      obtain rfl := Option.some.inj hc
      rfl
    · simp [exponentChars]

/-- A well-formed numeral is read back, without its sign. -/
theorem readNumeral_chars {n : Numeral} (hn : n.WellFormed) {rest : List Char} (h : Ends rest) :
    readNumeral n.negative (n.chars ++ rest) = .ok (n, rest) := by
  obtain ⟨hdigits, hpoint⟩ := endsDigits_exponentChars n.exponent h
  -- The digits before the point end at the point, at the exponent or where the numeral ends
  have hfraction : EndsDigits (fractionChars n.fraction ++ (exponentChars n.exponent ++ rest)) := by
    cases n.fraction with
    | none => exact hdigits
    | some ds =>
      intro c hc
      obtain rfl := Option.some.inj hc
      rfl
  -- The reader takes the parts in this order
  have htext : n.chars ++ rest =
      n.whole ++ (fractionChars n.fraction ++ (exponentChars n.exponent ++ rest)) := by
    simp [Numeral.chars]
  rw [htext, readNumeral, readWhole_append hn.whole hn.no_leading_zero hfraction]
  simp only [bind, Except.bind, readFraction_append hn.fraction hdigits hpoint,
    readExponent_append hn.exponent h]
  rfl

/-- A well-formed numeral is read back. -/
theorem readNumber_text {n : Numeral} (hn : n.WellFormed) {rest : List Char} (h : Ends rest) :
    readNumber (n.text ++ rest) = .ok (n, rest) := by
  have hread := readNumeral_chars hn h
  cases hsign : n.negative with
  | true =>
    rw [hsign] at hread
    simp only [Numeral.text, hsign, if_true, List.cons_append, readNumber, hread]
  | false =>
    rw [hsign] at hread
    simp only [Numeral.text, hsign, Bool.false_eq_true, if_false]
    -- A sign would be read first, so the first character has to be a digit
    obtain ⟨hne, hall⟩ := hn.whole
    cases hwhole : n.whole with
    | nil => exact absurd hwhole hne
    | cons c cs =>
      have hc : c ≠ '-' := by
        rintro rfl
        rw [hwhole] at hall
        exact nomatch hall
      have hchars : n.chars ++ rest =
          c :: (cs ++ (fractionChars n.fraction ++ exponentChars n.exponent) ++ rest) := by
        simp [Numeral.chars, hwhole]
      rw [hchars] at hread ⊢
      rw [readNumber]
      · exact hread
      · exact fun _ heq => hc (List.cons.inj heq).1

/-! ## Numerals without a leading zero -/

/-- The numeral of a positive number does not start with a zero. -/
theorem head?_digits {n : Nat} (h : 0 < n) : (Decimal.digits n).head? ≠ some '0' := by
  fun_induction Decimal.digits n with
  | case1 n hsmall =>
    intro hzero
    have hdigit := Decimal.toNat_digit hsmall
    rw [Option.some.inj hzero, show '0'.toNat = 48 from rfl] at hdigit
    omega
  | case2 n hlarge ih =>
    cases hfront : Decimal.digits (n / 10) with
    | nil => exact absurd hfront (Decimal.digits_ne_nil _)
    | cons c cs =>
      -- The first digit is that of the front, which is not zero either
      have hhead := ih (by omega)
      rwa [hfront] at hhead

/-- Only the zero starts with a zero, and then stands alone. -/
theorem digits_eq_zero {n : Nat} (h : (Decimal.digits n).head? = some '0') :
    Decimal.digits n = ['0'] := by
  rcases Nat.eq_zero_or_pos n with rfl | hpos
  · rw [Decimal.digits, if_pos (by decide)]
    rfl
  · exact absurd h (head?_digits hpos)

/-- The numeral of an integer. -/
private theorem wellFormed_digits (negative : Bool) (n : Nat) :
    Numeral.WellFormed ⟨negative, Decimal.digits n, none, none⟩ :=
  ⟨isDigits_digits n, digits_eq_zero, nofun, nofun⟩

end Json

namespace Binary64

open Json (Numeral IsDigits isDigits_digits head?_digits digits_eq_zero fractionChars exponentChars)

/-! ## The layouts of a double -/

/-- Positive numbers stand at all positions but the first. -/
theorem unitsAt_pos {k : Nat} (h : 0 < k) : 0 < unitsAt k := by
  unfold unitsAt
  split
  · exact h
  · rw [Nat.shiftLeft_eq]
    have hsize : 0 < binadeSize := by decide
    exact Nat.mul_pos (by omega) (Nat.two_pow_pos _)

/-- A point of a grid in an interval of positive numbers is positive. -/
private theorem pointOn?_pos {i : Interval} {step point : Nat} (hlow : 0 < i.low)
    (h : i.pointOn? step = some point) : 0 < point := by
  have hzero : i.holds 0 = false := by
    unfold Interval.holds
    split
    · simp
      omega
    · simp
  simp only [Interval.pointOn?] at h
  generalize i.value / (step * Interval.denominator) = below at h
  rcases Nat.eq_zero_or_pos below with rfl | hbelow
  -- The point zero is not in the interval, so the next one has been found
  · rw [Nat.zero_mul, hzero] at h
    split at h
    · next heq _ => exact nomatch heq
    · next heq _ => exact nomatch heq
    · obtain rfl := Option.some.inj h
      exact Nat.one_pos
    · exact nomatch h
  -- All points from `below` on are positive
  · split at h
    · split at h
      · exact Option.some.inj h ▸ hbelow
      · split at h
        · exact Option.some.inj h ▸ Nat.succ_pos below
        · obtain rfl := Option.some.inj h
          split <;> omega
    · exact Option.some.inj h ▸ hbelow
    · exact Option.some.inj h ▸ Nat.succ_pos below
    · exact nomatch h

/-- Without the zeros at its end a positive number is positive. -/
private theorem stripZeros_pos {n : Nat} {exponent : Int} (h : 0 < n) :
    0 < (stripZeros n exponent).1 := by
  fun_induction stripZeros n exponent with
  | case1 => exact absurd h (Nat.lt_irrefl 0)
  | case2 n exponent hne hlast ih => exact ih (by omega)
  | case3 => exact h

/-- The shortest decimal of a positive double is positive. -/
theorem shortest_pos {k : Nat} (h : 0 < k) : 0 < (shortest k).1 ∨ (shortest k).2 = 0 := by
  -- The interval of a positive double starts above zero
  have hlow : 0 < (interval k).low := by
    have hunit : ∀ place, 0 < Nat.pow 10 place := fun place => Nat.pow_pos (Nat.succ_pos 9)
    exact Nat.mul_pos (Nat.add_pos_right _ (unitsAt_pos h)) (hunit finestPlace)
  simp only [shortest]
  split
  · next point dropped hfound =>
    -- The point that was found lies in the interval
    obtain ⟨n, -, hn⟩ := List.exists_of_findSome?_eq_some hfound
    obtain ⟨found, hpoint, heq⟩ := Option.map_eq_some_iff.1 hn
    cases heq
    exact .inl (stripZeros_pos (pointOn?_pos hlow hpoint))
  · exact .inr rfl

/-- Zeros in front of digits or behind them are digits as well. -/
private theorem isDigits_zeros {ds : List Char} (count : Nat) (h : IsDigits ds) :
    IsDigits (List.replicate count '0' ++ ds) ∧ IsDigits (ds ++ List.replicate count '0') := by
  have hzeros : (List.replicate count '0').all Char.isDigit = true := by
    rw [List.all_eq_true]
    intro c hc
    obtain rfl := List.eq_of_mem_replicate hc
    rfl
  exact ⟨⟨by simp [h.1], by rw [List.all_append, hzeros, h.2]; rfl⟩,
    ⟨by simp [h.1], by rw [List.all_append, hzeros, h.2]; rfl⟩⟩

/-- Some of the digits of a number are digits. -/
private theorem isDigits_of_subset {cs ds : List Char} (h : IsDigits ds) (hne : cs ≠ [])
    (hsubset : cs ⊆ ds) : IsDigits cs :=
  ⟨hne, List.all_eq_true.2 fun _ hc => List.all_eq_true.1 h.2 _ (hsubset hc)⟩

/-- With an exponent behind them, digits are a numeral: the first one stands before the point. -/
private theorem exists_numeral_exponent (negative : Bool) (ds : List Char) (lead : Int) :
    IsDigits ds → ∃ m : Numeral, m.WellFormed ∧ m.negative = negative ∧
      (match ds with
        | d :: rest@(_ :: _) => d :: '.' :: rest
        | single => single) ++
          'e' :: (if lead < 0 then '-' else '+') :: Decimal.digits lead.natAbs = m.chars := by
  intro h
  have hexponent : ∀ negative es,
      some (decide (lead < 0), Decimal.digits lead.natAbs) = some (negative, es) →
        IsDigits es := by
    rintro _ _ ⟨rfl⟩
    exact isDigits_digits _
  cases ds with
  | nil => exact absurd rfl h.1
  | cons d rest =>
    have hd : IsDigits [d] := isDigits_of_subset h (by simp) (by simp)
    -- A single digit before the point may be a zero
    have hone : [d].head? = some '0' → [d] = ['0'] := fun hhead => by simpa using hhead
    -- A second digit starts the fraction
    cases rest with
    | nil =>
      refine ⟨⟨negative, [d], none, some (decide (lead < 0), Decimal.digits lead.natAbs)⟩,
        ⟨hd, hone, nofun, hexponent⟩, rfl, ?_⟩
      simp [Numeral.chars, fractionChars, exponentChars]
    | cons e rest =>
      refine ⟨⟨negative, [d], some (e :: rest),
        some (decide (lead < 0), Decimal.digits lead.natAbs)⟩, ⟨hd, hone, ?_, hexponent⟩, rfl, ?_⟩
      · rintro es ⟨rfl⟩
        exact isDigits_of_subset h (by simp) (by simp)
      · simp [Numeral.chars, fractionChars, exponentChars]

/-- A single zero is a row of digits. -/
private theorem isDigits_zero : IsDigits ['0'] := ⟨by decide, by decide⟩

/-- With a point behind them, or behind zeros that follow them, digits are a numeral. -/
private theorem exists_numeral_behind (negative : Bool) {ds : List Char} {zeros : Nat}
    (hds : IsDigits ds) (hzero : ds.head? = some '0' → ds = ['0'] ∧ zeros = 0) :
    ∃ m : Numeral, m.WellFormed ∧ m.negative = negative ∧
      ds ++ List.replicate zeros '0' ++ ['.', '0'] = m.chars := by
  refine ⟨⟨negative, ds ++ List.replicate zeros '0', some ['0'], none⟩,
    ⟨(isDigits_zeros zeros hds).2, ?_, ?_, nofun⟩, rfl, ?_⟩
  · intro hhead
    rw [List.head?_append, List.head?_eq_some_head hds.1, Option.some_or,
      ← List.head?_eq_some_head] at hhead
    -- A zero comes first only if it stands alone
    obtain ⟨hsingle, hzeros⟩ := hzero hhead
    rw [hsingle, hzeros]
    rfl
  · rintro es ⟨rfl⟩
    exact isDigits_zero
  · simp [Numeral.chars, fractionChars, exponentChars]

/-- With a point between them, digits are a numeral. -/
private theorem exists_numeral_between (negative : Bool) {ds : List Char} {place : Nat}
    (hds : IsDigits ds) (hzero : ds.head? ≠ some '0') (hfront : 0 < place)
    (hback : place < ds.length) :
    ∃ m : Numeral, m.WellFormed ∧ m.negative = negative ∧
      ds.take place ++ '.' :: ds.drop place = m.chars := by
  -- Digits remain on both sides of the point
  have htake : ds.take place ≠ [] := by
    simp [hds.1]
    omega
  have hdrop : ds.drop place ≠ [] := by simpa using hback
  refine ⟨⟨negative, ds.take place, some (ds.drop place), none⟩,
    ⟨isDigits_of_subset hds htake (List.take_subset ..), ?_, ?_, nofun⟩, rfl, ?_⟩
  · intro hhead
    rw [List.head?_take, if_neg (by omega)] at hhead
    exact absurd hhead hzero
  · rintro es ⟨rfl⟩
    exact isDigits_of_subset hds hdrop (List.drop_subset ..)
  · simp [Numeral.chars, fractionChars, exponentChars]

/-- With a zero and a point in front of them, digits are a numeral. -/
private theorem exists_numeral_front (negative : Bool) {ds : List Char} (zeros : Nat)
    (hds : IsDigits ds) :
    ∃ m : Numeral, m.WellFormed ∧ m.negative = negative ∧
      '0' :: '.' :: List.replicate zeros '0' ++ ds = m.chars := by
  refine ⟨⟨negative, ['0'], some (List.replicate zeros '0' ++ ds), none⟩,
    ⟨isDigits_zero, fun _ => rfl, ?_, nofun⟩, rfl, ?_⟩
  · rintro es ⟨rfl⟩
    exact (isDigits_zeros zeros hds).1
  · simp [Numeral.chars, fractionChars, exponentChars]

/-- A layout of a number that is not zero is a numeral, and so is the one of zero as it stands. -/
theorem exists_numeral_layout (negative : Bool) {n : Nat} {exponent : Int}
    (h : 0 < n ∨ exponent = 0) :
    ∃ m : Numeral, m.WellFormed ∧ m.negative = negative ∧
      layout (Decimal.digits n) exponent = m.chars := by
  have hds := isDigits_digits n
  have hlength : 0 < (Decimal.digits n).length := List.length_pos_iff.2 hds.1
  have hpos : exponent ≠ 0 → (Decimal.digits n).head? ≠ some '0' := fun hne =>
    head?_digits (h.resolve_right hne)
  simp only [layout]
  split
  · split
    · apply exists_numeral_behind negative hds
      intro hhead
      -- A leading zero belongs to the number zero, which has no exponent
      by_cases hexponent : exponent = 0
      · exact ⟨digits_eq_zero hhead, by simp [hexponent]⟩
      · exact absurd hhead (hpos hexponent)
    · split
      · exact exists_numeral_between negative hds (hpos (by omega)) (by omega) (by omega)
      · exact exists_numeral_front negative _ hds
  · exact exists_numeral_exponent negative _ _ hds

/-- A layout has a point or an exponent. -/
theorem mark_mem_layout (ds : List Char) (exponent : Int) :
    '.' ∈ layout ds exponent ∨ 'e' ∈ layout ds exponent := by
  simp only [layout]
  split
  · left
    split
    · simp
    · split <;> simp
  · right
    simp

/-- The text of a double has a point or an exponent, so that it is not taken for an integer. -/
theorem mark_mem_text (x : Binary64) : '.' ∈ x.text ∨ 'e' ∈ x.text := by
  -- The sign does not matter
  have hmagnitude : ∀ magnitude : List Char, '.' ∈ magnitude ∨ 'e' ∈ magnitude →
      '.' ∈ (if x.negative then '-' :: magnitude else magnitude) ∨
        'e' ∈ (if x.negative then '-' :: magnitude else magnitude) := by
    intro magnitude h
    split
    · exact h.imp (List.mem_cons_of_mem _) (List.mem_cons_of_mem _)
    · exact h
  apply hmagnitude
  split
  · decide
  · exact mark_mem_layout ..

/-- The text of a double is a numeral. -/
theorem exists_numeral (x : Binary64) : ∃ m : Numeral, m.WellFormed ∧ x.text = m.text := by
  -- Without the sign, the text is that of zero or the layout of the shortest decimal
  obtain ⟨m, hm, hsign, hchars⟩ : ∃ m : Numeral, m.WellFormed ∧ m.negative = x.negative ∧
      (if x.isZero then ['0', '.', '0'] else
        layout (Decimal.digits (shortest x.ordinal).1) (shortest x.ordinal).2) = m.chars := by
    split
    · refine ⟨⟨x.negative, ['0'], some ['0'], none⟩, ⟨isDigits_zero, fun _ => rfl, ?_, nofun⟩,
        rfl, rfl⟩
      rintro ds ⟨rfl⟩
      exact isDigits_zero
    · next hx =>
      have hpos : 0 < x.ordinal.val := by
        rw [isZero, beq_iff_eq] at hx
        omega
      exact exists_numeral_layout x.negative (shortest_pos hpos)
  refine ⟨m, hm, ?_⟩
  simp only [text, Numeral.text, hsign]
  rw [← hchars]

end Binary64

namespace Json

/-! ## Numbers -/

namespace Number

/-- The numeral of a number. -/
def numeral : Number → Numeral
  | .unsigned n => ⟨false, Decimal.digits n.toNat, none, none⟩
  | .negative n => ⟨true, Decimal.digits (n.val + 1), none, none⟩
  | .float x => match readNumber x.text with
    | .ok (m, _) => m
    | .error _ => ⟨x.negative, [], none, none⟩

/-- The text of a number is its numeral. -/
theorem chars_eq (n : Number) : n.numeral.WellFormed ∧ n.chars = n.numeral.text := by
  cases n with
  | unsigned n =>
    refine ⟨wellFormed_digits _ _, ?_⟩
    simp [numeral, chars, Numeral.text, Numeral.chars, fractionChars, exponentChars]
  | negative n =>
    refine ⟨wellFormed_digits _ _, ?_⟩
    simp [numeral, chars, Numeral.text, Numeral.chars, fractionChars, exponentChars]
  | float x =>
    obtain ⟨m, hm, htext⟩ := x.exists_numeral
    -- The numeral of a double is the one that its text is read as
    have hread := readNumber_text hm ends_nil
    rw [List.append_nil, ← htext] at hread
    have hnumeral : (Number.float x).numeral = m := by simp only [numeral, hread]
    rw [hnumeral]
    exact ⟨hm, htext⟩

/-- The text of a number is read as its numeral. -/
theorem read_chars (n : Number) {rest : List Char} (h : Ends rest) :
    readNumber (n.chars ++ rest) = .ok (n.numeral, rest) := by
  rw [n.chars_eq.2]
  exact readNumber_text n.chars_eq.1 h

end Number

end Json

end TweetHarvest
