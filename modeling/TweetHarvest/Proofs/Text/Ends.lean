import TweetHarvest.Text.Blank

/-!
# The ends of texts

What is dropped at the two ends of a text, where a part of it is known to stay.

## Key results

- `dropEndWhile_append`: a part that stays keeps what is in front of it
- `dropEnds_append`: with a part in front that stays, only the end is dropped
- `trimChars_surrounded`: what is left of a part that stays between blanks
- `mem_trimChars`: no other characters but blanks are lost
- `isTrimmed_trim`, `IsTrimmed.trim_eq`: what is trimmed has no blanks at its ends, and the other way
  round
-/

namespace TweetHarvest.Text

variable {p : Char → Bool} {s : List Char} {c : Char}

/-- Dropping characters at the end adds none. -/
theorem mem_of_mem_dropEndWhile (h : c ∈ dropEndWhile p s) : c ∈ s := by
  have hreverse := List.mem_reverse.1 h
  exact List.mem_reverse.1 ((List.dropWhile_sublist p).subset hreverse)

/-- Trimming adds no characters. -/
theorem mem_of_mem_trimChars (h : c ∈ trimChars s) : c ∈ s :=
  (List.dropWhile_sublist isBlank).subset (mem_of_mem_dropEndWhile h)

/-- Nothing is dropped behind the last character that stays. -/
theorem dropEndWhile_append_cons (a b : List Char) (h : p c = false) :
    dropEndWhile p (a ++ c :: b) = a ++ c :: dropEndWhile p b := by
  -- Seen from the end, dropping stops at this character at the latest
  have hstays : (c :: a.reverse).dropWhile p = c :: a.reverse :=
    List.dropWhile_cons_of_neg (by simp [h])
  unfold dropEndWhile
  rw [List.reverse_append, List.reverse_cons, List.append_assoc, List.singleton_append,
    List.dropWhile_append]
  split
  · next hempty =>
    rw [hstays, List.isEmpty_iff.1 hempty]
    simp
  · simp

/-- A part that stays keeps what is in front of it. -/
theorem dropEndWhile_append {a : List Char} (ha : a ≠ []) (h : ∀ c ∈ a, p c = false)
    (b : List Char) : dropEndWhile p (a ++ b) = a ++ dropEndWhile p b := by
  obtain ⟨front, last, rfl⟩ : ∃ front last, a = front ++ [last] :=
    ⟨_, _, (List.dropLast_concat_getLast ha).symm⟩
  have hlast : p last = false := h last (by simp)
  simpa using dropEndWhile_append_cons front b hlast

/-- With a part in front that stays, only the end is dropped. -/
theorem dropEnds_append {a : List Char} (ha : a ≠ []) (h : ∀ c ∈ a, p c = false)
    (b : List Char) : dropEndWhile p ((a ++ b).dropWhile p) = a ++ dropEndWhile p b := by
  have hfront : (a ++ b).dropWhile p = a ++ b := by
    cases a with
    | nil => exact absurd rfl ha
    | cons c cs => exact List.dropWhile_cons_of_neg (by simp [h c])
  rw [hfront, dropEndWhile_append ha h]

/-- Where everything is dropped, nothing is left. -/
theorem dropEndWhile_eq_nil (h : ∀ c ∈ s, p c = true) : dropEndWhile p s = [] := by
  have hall : ∀ c ∈ s.reverse, p c = true := fun c hc => h c (List.mem_reverse.1 hc)
  have hdropped : (s.reverse ++ []).dropWhile p = [].dropWhile p :=
    List.dropWhile_append_of_pos hall
  rw [dropEndWhile, ← List.append_nil s.reverse, hdropped]
  rfl

/-- A part without blanks is what is left of it between blanks. -/
theorem trimChars_surrounded {front core back : List Char} (hne : core ≠ [])
    (hfront : ∀ c ∈ front, isBlank c = true) (hcore : ∀ c ∈ core, isBlank c = false)
    (hback : ∀ c ∈ back, isBlank c = true) : trimChars (front ++ (core ++ back)) = core := by
  rw [trimChars, List.dropWhile_append_of_pos hfront, dropEnds_append hne hcore,
    dropEndWhile_eq_nil hback, List.append_nil]

/-- A character that is not dropped is kept wherever it stands. -/
theorem mem_dropWhile (h : c ∈ s) (hc : p c = false) : c ∈ s.dropWhile p := by
  rw [← List.takeWhile_append_dropWhile (p := p) (l := s), List.mem_append] at h
  refine h.resolve_left fun hdropped => ?_
  rw [List.all_eq_true.1 List.all_takeWhile c hdropped] at hc
  exact nomatch hc

/-- A character that is no blank is not lost. -/
theorem mem_trimChars (h : c ∈ s) (hc : isBlank c = false) : c ∈ trimChars s := by
  have hfront := List.mem_reverse.2 (mem_dropWhile h hc)
  exact List.mem_reverse.2 (mem_dropWhile hfront hc)

/-- Nothing is left of blanks, and of nothing else. -/
theorem trimChars_eq_nil_iff : trimChars s = [] ↔ ∀ c ∈ s, isBlank c = true := by
  constructor
  · intro h c hc
    cases hblank : isBlank c with
    | true => rfl
    | false =>
      have hleft := mem_trimChars hc hblank
      rw [h] at hleft
      exact nomatch hleft
  · intro h
    exact dropEndWhile_eq_nil fun c hc => h c ((List.dropWhile_sublist isBlank).subset hc)

/-- No digit is a blank. -/
theorem isBlank_of_isDigit (h : c.isDigit = true) : isBlank c = false := by
  have hall : ∀ n < 58, 48 ≤ n → isBlank (Char.ofNat n) = false := by decide
  simp only [Char.isDigit, Bool.and_eq_true, decide_eq_true_eq] at h
  have hlow : 48 ≤ c.toNat := UInt32.le_iff_toNat_le.1 h.1
  have hhigh : c.toNat ≤ 57 := UInt32.le_iff_toNat_le.1 h.2
  have hblank := hall c.toNat (by omega) hlow
  rwa [Char.ofNat_toNat] at hblank

/-- A text without blanks has nothing to be trimmed. -/
theorem trimChars_eq_self (h : ∀ c ∈ s, isBlank c = false) : trimChars s = s := by
  by_cases hs : s = []
  · rw [hs]
    rfl
  · have htrim : trimChars ([] ++ (s ++ [])) = s := trimChars_surrounded hs nofun h nofun
    simpa using htrim

/-! ## Trimmed texts -/

/-- A text that is not empty and has no blank at either end. -/
structure IsTrimmed (s : String) : Prop where
  nonempty : s.toList ≠ []
  front : ∀ c ∈ s.toList.head?, isBlank c = false
  back : ∀ c ∈ s.toList.getLast?, isBlank c = false

/-- Characters are dropped at the end only. -/
theorem dropEndWhile_isPrefix (p : Char → Bool) (s : List Char) : dropEndWhile p s <+: s := by
  have hsuffix := List.reverse_prefix.2 (List.dropWhile_suffix p (l := s.reverse))
  rwa [List.reverse_reverse] at hsuffix

/-- A text that ends in a character that stays loses nothing at its end. -/
theorem dropEndWhile_eq_self (h : ∀ c ∈ s.getLast?, p c = false) : dropEndWhile p s = s := by
  by_cases hs : s = []
  · rw [hs]
    rfl
  · obtain ⟨front, last, rfl⟩ : ∃ front last, s = front ++ [last] :=
      ⟨_, _, (List.dropLast_concat_getLast hs).symm⟩
    exact dropEndWhile_append_cons front [] (h last (by simp))

/-- What is left of a text that is not blank is trimmed. -/
theorem isTrimmed_trim {s : String} (h : isAllBlank s = false) : IsTrimmed (trim s) := by
  obtain ⟨c, hc, hblank⟩ : ∃ c ∈ s.toList, isBlank c = false := by
    simpa [isAllBlank] using h
  have hne : trimChars s.toList ≠ [] := List.ne_nil_of_mem (mem_trimChars hc hblank)
  refine ⟨by rwa [trim, String.toList_ofList], fun first hfirst => ?_, fun last hlast => ?_⟩
  · -- Dropping the blanks at the end leaves the first character where it is
    obtain ⟨back, hback⟩ := dropEndWhile_isPrefix isBlank (s.toList.dropWhile isBlank)
    rw [trim, String.toList_ofList, Option.mem_def] at hfirst
    have hhead := List.head?_dropWhile_not isBlank s.toList
    rw [← hback, List.head?_append, ← trimChars, hfirst] at hhead
    simpa using hhead
  · rw [trim, String.toList_ofList, trimChars, dropEndWhile, List.getLast?_reverse,
      Option.mem_def] at hlast
    have hhead := List.head?_dropWhile_not isBlank (s.toList.dropWhile isBlank).reverse
    rw [hlast] at hhead
    simpa using hhead

/-- A trimmed text has nothing to be trimmed. -/
theorem IsTrimmed.trim_eq {s : String} (h : IsTrimmed s) : trim s = s := by
  have hfront : s.toList.dropWhile isBlank = s.toList := by
    cases hs : s.toList with
    | nil => rfl
    | cons c cs => exact List.dropWhile_cons_of_neg (by simp [h.front c (by simp [hs])])
  rw [trim, trimChars, hfront, dropEndWhile_eq_self h.back, String.ofList_toList]

/-- A trimmed text is not blank. -/
theorem IsTrimmed.isAllBlank_eq {s : String} (h : IsTrimmed s) : isAllBlank s = false := by
  obtain ⟨c, cs, hs⟩ := List.exists_cons_of_ne_nil h.nonempty
  simp [isAllBlank, hs, h.front c (by simp [hs])]

/-- A text that is not blank is trimmed, and a blank one is none. -/
theorem trim?_eq_some_iff {s t : String} : trim? s = some t ↔ isAllBlank s = false ∧ t = trim s := by
  unfold trim?
  split
  · next hblank => simp [hblank]
  · next hblank => simp [hblank, eq_comm]

/-- Trimming leaves trimmed texts as they are. -/
theorem IsTrimmed.trim?_eq {s : String} (h : IsTrimmed s) : trim? s = some s := by
  rw [trim?, h.isAllBlank_eq, if_neg Bool.false_ne_true, h.trim_eq]

end TweetHarvest.Text
