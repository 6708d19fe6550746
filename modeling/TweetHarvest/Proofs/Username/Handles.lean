import TweetHarvest.Username

/-!
# Handles

What a handle is, of which characters it consists, and that nothing else is read.

## Key results

- `Username.isHandle_iff`: the texts that count as handles
- `Username.read_eq_ok_iff`: what is read is a handle
- `Username.isHandleChar_induction`: a fact about all ASCII characters of handles holds for all of
  them
-/

namespace TweetHarvest.Username

/-- An ASCII letter or digit, or an underscore. -/
def IsHandleLetter (c : Char) : Prop :=
  ('a' ≤ c ∧ c ≤ 'z') ∨ ('A' ≤ c ∧ c ≤ 'Z') ∨ ('0' ≤ c ∧ c ≤ '9') ∨ c = '_'

/-- A handle: one to fifteen letters, digits and underscores. -/
structure IsHandle (handle : String) : Prop where
  letters : ∀ c ∈ handle.toList, IsHandleLetter c
  nonempty : 1 ≤ handle.length
  short : handle.length ≤ 15

/-- The check of a character decides whether it can stand in a handle. -/
theorem isHandleChar_iff {c : Char} : isHandleChar c = true ↔ IsHandleLetter c := by
  unfold isHandleChar Char.isAlphanum Char.isAlpha Char.isUpper Char.isLower Char.isDigit
  simp only [Bool.or_eq_true, Bool.and_eq_true, decide_eq_true_eq, IsHandleLetter, Char.le_def]
  simp only [ge_iff_le, or_assoc]
  exact or_left_comm

/-- The check of a text decides whether it is a handle. -/
theorem isHandle_iff {handle : String} : isHandle handle.toList = true ↔ IsHandle handle := by
  simp only [isHandle, Bool.and_eq_true, List.all_eq_true, decide_eq_true_eq, isHandleChar_iff,
    String.length_toList]
  exact ⟨fun ⟨⟨h, h'⟩, h''⟩ => ⟨h, h', h''⟩, fun h => ⟨⟨h.letters, h.nonempty⟩, h.short⟩⟩

/-- What is read is what the text without the blanks around it leads to, if that is a handle. -/
theorem read_eq_ok_iff {text handle : String} :
    read text = .ok handle ↔
      Text.trim text ≠ "" ∧ candidate (Text.trim text) = handle.toList ∧ IsHandle handle := by
  rw [← isHandle_iff]
  unfold read
  -- A text is refused if nothing of it is left, or if what is left is no handle
  by_cases hempty : Text.trim text = ""
  · simp [hempty]
  · by_cases hhandle : isHandle (candidate (Text.trim text)) = true
    · simp only [hempty, hhandle, if_true, if_false, Except.ok.injEq, ne_eq, not_false_eq_true,
        true_and]
      constructor
      · rintro rfl
        simpa using hhandle
      · rintro ⟨h, -⟩
        rw [h, String.ofList_toList]
    · simp only [hempty, hhandle, if_false, ne_eq, not_false_eq_true, true_and]
      exact ⟨nofun, fun ⟨h, h'⟩ => absurd (h ▸ h') hhandle⟩

/-- The characters of handles are ASCII. -/
theorem toNat_lt_of_isHandleChar {c : Char} (h : isHandleChar c = true) : c.toNat < 128 := by
  unfold isHandleChar Char.isAlphanum Char.isAlpha Char.isUpper Char.isLower at h
  simp only [Char.isDigit, Bool.or_eq_true, Bool.and_eq_true, decide_eq_true_eq,
    UInt32.le_iff_toNat_le] at h
  -- The greatest letters and the greatest digit are below the bound
  have hupper : 'Z'.val.toNat = 90 := rfl
  have hlower : 'z'.val.toNat = 122 := rfl
  have hdigit : '9'.val.toNat = 57 := rfl
  have hval : c.toNat = c.val.toNat := rfl
  rcases h with ((h | h) | h) | rfl
  · omega
  · omega
  · omega
  · decide

/-- What all ASCII characters of handles have in common, all characters of handles have: there are
few enough to look at each. -/
theorem isHandleChar_induction {P : Char → Prop}
    (h : ∀ n < 128, isHandleChar (Char.ofNat n) = true → P (Char.ofNat n)) {c : Char}
    (hc : isHandleChar c = true) : P c := by
  have hn := h c.toNat (toNat_lt_of_isHandleChar hc)
  rw [Char.ofNat_toNat] at hn
  exact hn hc

end TweetHarvest.Username
