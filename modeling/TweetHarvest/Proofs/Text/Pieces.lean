import TweetHarvest.Text.Blank

/-!
# Splitting and joining texts

## Key results

- `splitOn_append_sep`: a separator divides the pieces of a text
- `splitOn_joinWith_flatMap`, `splitOn_joinWith`: splitting joined texts, and joined pieces
- `joinWith_isPrefix`, `joinWith_isSuffix`: the first pieces make up the start of a text, the last
  ones its end
- `splitOn_append`: the last piece of a text grows with the text
- `eq_of_append_sep`: the last separator of a text tells where it stands
-/

namespace TweetHarvest.Text

variable {α : Type} [DecidableEq α] {sep : α}

/-- A separator divides the pieces of a text into those on its two sides. -/
theorem splitOn_append_sep (a b : List α) :
    splitOn sep (a ++ sep :: b) = splitOn sep a ++ splitOn sep b := by
  induction a with
  | nil => simp [splitOn]
  | cons c cs ih =>
    simp only [List.cons_append, splitOn, ih]
    split
    · rfl
    · cases hcs : splitOn sep cs with
      | nil => exact absurd hcs (splitOn_ne_nil sep cs)
      | cons piece rest => rfl

/-- A text without separators is one piece. -/
theorem splitOn_of_not_mem {s : List α} (h : sep ∉ s) : splitOn sep s = [s] := by
  induction s with
  | nil => rfl
  | cons c cs ih =>
    obtain ⟨hc, hcs⟩ := not_or.1 (mt List.mem_cons.2 h)
    simp only [splitOn, if_neg (Ne.symm hc), ih hcs]

/-- The pieces of a text have no separator in them. -/
theorem not_mem_of_mem_splitOn {s piece : List α} (h : piece ∈ splitOn sep s) : sep ∉ piece := by
  induction s generalizing piece with
  | nil =>
    obtain rfl := List.mem_singleton.1 h
    simp
  | cons c cs ih =>
    simp only [splitOn] at h
    split at h
    · rcases List.mem_cons.1 h with rfl | h
      · simp
      · exact ih h
    -- A character that is no separator goes to the first piece
    · next hc =>
      cases hcs : splitOn sep cs with
      | nil => exact absurd hcs (splitOn_ne_nil sep cs)
      | cons first rest =>
        rw [hcs] at h ih
        rcases List.mem_cons.1 h with rfl | h
        · simpa [Ne.symm hc] using ih (List.mem_cons_self ..)
        · exact ih (List.mem_cons_of_mem _ h)

/-- What stands in a text and is no separator stands in one of its pieces. -/
theorem mem_splitOn_iff {s : List α} {c : α} (hc : c ≠ sep) :
    c ∈ s ↔ ∃ piece ∈ splitOn sep s, c ∈ piece := by
  induction s with
  | nil => simp [splitOn]
  | cons b cs ih =>
    simp only [splitOn, List.mem_cons, ih]
    split
    · next hb => simp [hb, hc]
    · cases hcs : splitOn sep cs with
      | nil => exact absurd hcs (splitOn_ne_nil sep cs)
      | cons first rest => simp [or_assoc]

omit [DecidableEq α] in
/-- What stays one piece each stays as it is. -/
theorem flatMap_eq_self {pieces : List α} {f : α → List α}
    (h : ∀ piece ∈ pieces, f piece = [piece]) : pieces.flatMap f = pieces := by
  rw [List.flatMap_def, List.map_congr_left h, ← List.flatMap_def, List.flatMap_singleton']

/-- Texts that are joined are split like each of them on its own. -/
theorem splitOn_joinWith_flatMap {texts : List (List α)} (hne : texts ≠ []) :
    splitOn sep (joinWith sep texts) = texts.flatMap (splitOn sep) := by
  induction texts with
  | nil => exact absurd rfl hne
  | cons text rest ih =>
    -- Only between two texts there is a separator to split at
    cases rest with
    | nil => simp [joinWith]
    | cons next others =>
      rw [joinWith, splitOn_append_sep, ih (List.cons_ne_nil next others)]
      · rfl
      · exact List.cons_ne_nil next others

/-- Splitting joined pieces gives the pieces back, if there are any and none has a separator. -/
theorem splitOn_joinWith {pieces : List (List α)} (hne : pieces ≠ [])
    (h : ∀ piece ∈ pieces, sep ∉ piece) : splitOn sep (joinWith sep pieces) = pieces := by
  rw [splitOn_joinWith_flatMap hne]
  exact flatMap_eq_self fun piece hpiece => splitOn_of_not_mem (h piece hpiece)

omit [DecidableEq α] in
/-- Pieces are joined part by part. -/
theorem joinWith_append {a b : List (List α)} (ha : a ≠ []) (hb : b ≠ []) :
    joinWith sep (a ++ b) = joinWith sep a ++ sep :: joinWith sep b := by
  induction a with
  | nil => exact absurd rfl ha
  | cons piece rest ih =>
    -- A single piece is followed by the separator at once
    cases rest with
    | nil =>
      cases b with
      | nil => exact absurd rfl hb
      | cons next others => rfl
    | cons next others =>
      have hrest := ih (by simp)
      simp only [List.cons_append, joinWith] at hrest ⊢
      rw [hrest, List.append_assoc, List.cons_append]

omit [DecidableEq α] in
/-- The first pieces, joined, are the start of all the pieces joined. -/
theorem joinWith_isPrefix {a b : List (List α)} (h : a <+: b) :
    joinWith sep a <+: joinWith sep b := by
  obtain ⟨back, rfl⟩ := h
  by_cases ha : a = []
  · rw [ha]
    exact List.nil_prefix
  by_cases hback : back = []
  · simp [hback]
  · rw [joinWith_append ha hback]
    exact List.prefix_append _ _

omit [DecidableEq α] in
/-- The last pieces, joined, are the end of all the pieces joined. -/
theorem joinWith_isSuffix {a b : List (List α)} (h : a <:+ b) :
    joinWith sep a <:+ joinWith sep b := by
  obtain ⟨front, rfl⟩ := h
  by_cases ha : a = []
  · rw [ha]
    exact List.nil_suffix
  by_cases hfront : front = []
  · simp [hfront]
  · rw [joinWith_append hfront ha, ← List.singleton_append, ← List.append_assoc]
    exact List.suffix_append _ _

/-- What follows the last separator of a text grows with the text. -/
theorem splitOn_append {s t : List α} {front : List (List α)} {last first : List α}
    {rest : List (List α)} (hs : splitOn sep s = front ++ [last])
    (ht : splitOn sep t = first :: rest) :
    splitOn sep (s ++ t) = front ++ (last ++ first) :: rest := by
  induction s generalizing front last with
  | nil =>
    obtain ⟨rfl, rfl⟩ : front = [] ∧ last = [] := by
      cases front with
      | nil => simpa [splitOn, eq_comm] using hs
      | cons => simp [splitOn] at hs
    exact ht
  | cons c cs ih =>
    by_cases hc : c = sep
    · subst hc
      simp only [splitOn, if_pos] at hs
      -- The separator makes an empty piece of its own, in front of all the others
      obtain ⟨before, rfl, hcs⟩ : ∃ before, front = [] :: before ∧
          splitOn c cs = before ++ [last] := by
        cases front with
        | nil =>
          obtain ⟨-, hnil⟩ := List.cons.inj hs
          exact absurd hnil (splitOn_ne_nil c cs)
        | cons piece before =>
          obtain ⟨rfl, hcs⟩ := List.cons.inj hs
          exact ⟨before, rfl, hcs⟩
      simp only [List.cons_append, splitOn, if_pos, ih hcs]
    · simp only [splitOn, if_neg hc] at hs
      simp only [List.cons_append, splitOn, if_neg hc]
      cases hcs : splitOn sep cs with
      | nil => exact absurd hcs (splitOn_ne_nil sep cs)
      | cons piece others =>
        rw [hcs] at hs
        cases front with
        | nil =>
          obtain ⟨rfl, rfl⟩ := List.cons.inj hs
          rw [ih (show splitOn sep cs = [] ++ [piece] from hcs)]
          rfl
        | cons head before =>
          obtain ⟨rfl, rfl⟩ := List.cons.inj hs
          rw [ih (show splitOn sep cs = (piece :: before) ++ [last] from hcs)]
          rfl

/-- The last separator of a text tells where it stands. -/
theorem eq_of_append_sep {a a' b b' : List α} (hb : sep ∉ b) (hb' : sep ∉ b')
    (h : a ++ sep :: b = a' ++ sep :: b') : a = a' ∧ b = b' := by
  have hpieces := congrArg (splitOn sep) h
  simp only [splitOn_append_sep, splitOn_of_not_mem hb, splitOn_of_not_mem hb'] at hpieces
  -- What stands behind the last separator is the last piece, on both sides
  obtain ⟨-, hlast⟩ := List.append_inj' hpieces rfl
  obtain rfl := List.singleton_inj.1 hlast
  exact ⟨List.append_cancel_right h, rfl⟩

end TweetHarvest.Text
