import Mathlib.Algebra.Group.Nat.Defs
import TweetHarvest.Proofs.Text.Octets
import TweetHarvest.Proofs.Text.Pieces

/-!
# Octets and what is shown of them

A character of one octet stands for itself wherever its octet occurs: no other character has the octet
in it.  So the octets of a text can be taken apart at such an octet as the text can be at its
character, and what is shown of any octets holds such a character only where its octet stands.

## Key results

- `Utf8.utf8EncodeChar_cases`: the two forms of the octets of a character
- `Utf8.splitOn_encode`: octets are divided where the text is
- `Utf8.isText_iff_pieces`: octets are those of a text if their pieces are
- `Utf8.infix_of_encode`: octets of a text that are those of another
- `Utf8.mem_of_mem_lossy`, `Utf8.splitOn_lossy`: what is shown of octets that need not be a text
-/

namespace TweetHarvest.Utf8

open Text (splitOn joinWith)

/-- A number that a character can have is the number of that character. -/
private theorem toNat_ofNat {n : Nat} (h : n.isValidChar) : (Char.ofNat n).toNat = n := by
  rw [Char.ofNat, dif_pos h]
  rfl

/-! ## Characters of one octet -/

/-- A character is a single octet below `80`, or an octet from `C0` on that is followed by octets
between the two. -/
theorem utf8EncodeChar_cases (c : Char) :
    (c.toNat < 0x80 ∧ String.utf8EncodeChar c = [.ofNat c.toNat]) ∨
      0x80 ≤ c.toNat ∧ ∃ first more, String.utf8EncodeChar c = first :: more ∧ 0xC0 ≤ first ∧
        ∀ b ∈ more, 0x80 ≤ b ∧ b < 0xC0 := by
  have hvalid : c.val.toNat < 0x110000 := by
    have h : c.val.toNat < 0xD800 ∨ 0xDFFF < c.val.toNat ∧ c.val.toNat < 0x110000 := c.valid
    omega
  have hc : c.toNat = c.val.toNat := rfl
  -- The octet in front is one of the upper quarter, the others are of the quarter below
  have hlead : ∀ n, 0xC0 ≤ n → n < 256 → (0xC0 : UInt8) ≤ .ofNat n := by
    intro n hlow hhigh
    rw [UInt8.le_iff_toNat_le, toNat_octet hhigh]
    exact hlow
  have hmore : ∀ n, (0x80 : UInt8) ≤ .ofNat (n % 64 + 128) ∧ UInt8.ofNat (n % 64 + 128) < 0xC0 := by
    intro n
    rw [UInt8.le_iff_toNat_le, UInt8.lt_iff_toNat_lt, toNat_octet (by omega)]
    exact ⟨show 0x80 ≤ _ by omega, show _ < 0xC0 by omega⟩
  simp only [String.utf8EncodeChar]
  rw [hc]
  -- One case for each number of octets
  generalize c.val.toNat = v at hvalid
  split
  · exact .inl ⟨by omega, rfl⟩
  split
  · refine .inr ⟨by omega, _, _, rfl, hlead _ (by omega) (by omega), ?_⟩
    simp only [List.mem_cons, List.not_mem_nil, or_false, forall_eq, hmore, and_self]
  split
  · refine .inr ⟨by omega, _, _, rfl, hlead _ (by omega) (by omega), ?_⟩
    simp only [List.mem_cons, List.not_mem_nil, or_false, forall_eq_or_imp, forall_eq, hmore,
      and_self]
  · refine .inr ⟨by omega, _, _, rfl, hlead _ (by omega) (by omega), ?_⟩
    simp only [List.mem_cons, List.not_mem_nil, or_false, forall_eq_or_imp, forall_eq, hmore,
      and_self]

/-- The octets of the first character come first. -/
theorem encode_cons (c : Char) (cs : List Char) :
    encode (c :: cs) = String.utf8EncodeChar c ++ encode cs := List.flatMap_cons

/-- Texts are put one behind the other octet by octet. -/
@[simp] theorem encode_append (s t : List Char) : encode (s ++ t) = encode s ++ encode t :=
  List.flatMap_append

/-- The size of a text is the number of its octets. -/
theorem length_encode (s : List Char) : (encode s).length = size s := by
  induction s with
  | nil => rfl
  | cons c cs ih => rw [encode_cons, List.length_append, String.length_utf8EncodeChar, ih, size]

section Ascii

variable {c : Char} {b : UInt8} (hc : c.toNat = b.toNat) (hb : b < 0x80)

include hc hb

/-- A character below `80` is a single octet. -/
theorem utf8EncodeChar_of_ascii : String.utf8EncodeChar c = [b] := by
  rcases utf8EncodeChar_cases c with ⟨-, hone⟩ | ⟨hbeyond, -⟩
  · rw [hone, hc, UInt8.ofNat_toNat]
  · rw [hc] at hbeyond
    exact absurd (UInt8.lt_iff_toNat_lt.1 hb) (Nat.not_lt.2 hbeyond)

/-- A single octet stands for its character and for no part of another. -/
theorem mem_utf8EncodeChar_iff (d : Char) : b ∈ String.utf8EncodeChar d ↔ d = c := by
  rw [UInt8.lt_iff_toNat_lt] at hb
  rcases utf8EncodeChar_cases d with ⟨hd, hone⟩ | ⟨hd, first, more, hmore, hfirst, hrest⟩
  · rw [hone, List.mem_singleton, ← UInt8.toNat_inj, toNat_octet (by omega), ← hc,
      Char.toNat_inj, eq_comm]
  · rw [hmore]
    constructor
    · intro hmem
      -- All octets of a longer character lie above a single one
      exfalso
      rcases List.mem_cons.1 hmem with rfl | hmem
      · have := UInt8.le_iff_toNat_le.1 hfirst
        exact absurd (Nat.lt_of_le_of_lt this hb) (by decide)
      · have := UInt8.le_iff_toNat_le.1 (hrest _ hmem).1
        exact absurd (Nat.lt_of_le_of_lt this hb) (by decide)
    · rintro rfl
      exact absurd (hc ▸ hb) (Nat.not_lt.2 hd)

/-- A single octet stands in a text where its character does. -/
theorem mem_encode_iff (s : List Char) : b ∈ encode s ↔ c ∈ s := by
  simp only [encode, List.mem_flatMap, mem_utf8EncodeChar_iff hc hb, exists_eq_right]

/-- Octets are divided at a single octet where the text is divided at its character. -/
theorem splitOn_encode (s : List Char) : splitOn b (encode s) = (splitOn c s).map encode := by
  induction s with
  | nil => rfl
  | cons d ds ih =>
    obtain ⟨first, rest, hds⟩ := List.exists_cons_of_ne_nil (Text.splitOn_ne_nil c ds)
    rw [hds, List.map_cons] at ih
    by_cases hd : d = c
    · rw [encode_cons, hd, utf8EncodeChar_of_ascii hc hb, List.singleton_append, splitOn,
        if_pos rfl, ih, splitOn, if_pos rfl, hds]
      rfl
    · -- The octets of another character go to the first piece
      have hone : splitOn b (String.utf8EncodeChar d) = [] ++ [String.utf8EncodeChar d] :=
        Text.splitOn_of_not_mem (mt (mem_utf8EncodeChar_iff hc hb d).1 hd)
      rw [encode_cons, Text.splitOn_append hone ih, splitOn, if_neg hd, hds]
      rfl

/-- Texts are joined with a character as their octets are with its octet. -/
theorem encode_joinWith (texts : List (List Char)) :
    encode (joinWith c texts) = joinWith b (texts.map encode) := by
  induction texts with
  | nil => rfl
  | cons text rest ih =>
    cases rest with
    | nil => rfl
    | cons next others =>
      rw [joinWith, encode_append, encode_cons, utf8EncodeChar_of_ascii hc hb, ih]
      · rfl
      · exact List.cons_ne_nil next others

end Ascii

/-! ## Octets of texts -/

/-- Octets are those of a text: they can be told from what they are shown as. -/
def IsText (bytes : List UInt8) : Prop := encode (lossy bytes) = bytes

/-- The octets of a text are those of a text. -/
theorem isText_encode (s : List Char) : IsText (encode s) := by
  rw [IsText, lossy_encode]

/-- Octets that are told from what they are shown as are those of some text. -/
theorem isText_iff {bytes : List UInt8} : IsText bytes ↔ ∃ s, bytes = encode s := by
  constructor
  · intro h
    exact ⟨_, h.symm⟩
  · rintro ⟨s, rfl⟩
    exact isText_encode s

/-- The octets of a string are shown as the string. -/
theorem shown_octets (s : String) : shown (octets s) = s := by
  rw [shown, octets, lossy_encode, String.ofList_toList]

/-- Different strings have different octets. -/
theorem octets_inj {s t : String} : octets s = octets t ↔ s = t := by
  rw [octets, octets, encode_inj, String.toList_inj]

/-- What is shown of octets has these octets exactly if they are those of a text. -/
theorem octets_shown {bytes : List UInt8} : octets (shown bytes) = bytes ↔ IsText bytes := by
  rw [octets, shown, String.toList_ofList, IsText]

/-- Octets that are divided at single octets are those of a text if each piece is. -/
theorem isText_iff_pieces {b : UInt8} (hb : b < 0x80) {bytes : List UInt8} :
    IsText bytes ↔ ∀ piece ∈ splitOn b bytes, IsText piece := by
  have hvalid : b.toNat.isValidChar := .inl (Nat.lt_trans (UInt8.lt_iff_toNat_lt.1 hb) (by decide))
  have hc : (Char.ofNat b.toNat).toNat = b.toNat := toNat_ofNat hvalid
  constructor
  · intro h piece hpiece
    obtain ⟨s, rfl⟩ := isText_iff.1 h
    rw [splitOn_encode hc hb, List.mem_map] at hpiece
    obtain ⟨text, -, rfl⟩ := hpiece
    exact isText_encode text
  · intro h
    -- The pieces are the octets of their texts, and so is what they are joined to
    have hpieces : ((splitOn b bytes).map lossy).map encode = splitOn b bytes := by
      rw [List.map_map]
      exact (List.map_congr_left h).trans (List.map_id _)
    rw [isText_iff]
    exact ⟨_, by rw [encode_joinWith hc hb, hpieces, Text.joinWith_splitOn]⟩

/-! ## Parts of texts -/

/-- A text starts with the octets of another only if it starts with the other. -/
theorem prefix_of_encode {s t : List Char} (h : encode s <+: encode t) : s <+: t := by
  induction s generalizing t with
  | nil => exact List.nil_prefix
  | cons c cs ih =>
    obtain ⟨rest, hrest⟩ := h
    rw [encode_cons, List.append_assoc] at hrest
    -- The first character is decoded from what they have in common
    have hpieces := congrArg (piecesFrom none) hrest
    rw [piecesFrom_utf8EncodeChar, ← pieces, ← pieces, pieces_encode] at hpieces
    cases t with
    | nil => simp at hpieces
    | cons d ds =>
      obtain ⟨rfl, -⟩ : c = d ∧ _ := by simpa using hpieces
      rw [encode_cons] at hrest
      exact List.cons_prefix_cons.2 ⟨rfl, ih ⟨rest, List.append_cancel_left hrest⟩⟩

/-- The first octet of a character does not continue another. -/
theorem exists_first_octet (c : Char) :
    ∃ first more, String.utf8EncodeChar c = first :: more ∧ ¬ (0x80 ≤ first ∧ first < 0xC0) := by
  rcases utf8EncodeChar_cases c with ⟨hc, hone⟩ | ⟨-, first, more, hmore, hfirst, -⟩
  · refine ⟨_, _, hone, fun hfirst => ?_⟩
    have hlow := UInt8.le_iff_toNat_le.1 hfirst.1
    rw [toNat_octet (by omega)] at hlow
    exact absurd hc (Nat.not_lt.2 hlow)
  · exact ⟨first, more, hmore, fun h => UInt8.not_lt.2 hfirst h.2⟩

/-- Octets of a text that are those of another are part of it character by character, since no
character begins inside of one. -/
theorem infix_of_encode {s t : List Char} (h : encode s <:+: encode t) : s <:+: t := by
  cases s with
  | nil => exact List.nil_infix
  | cons c cs =>
    obtain ⟨first, more, hfirst, hbegins⟩ := exists_first_octet c
    obtain ⟨front, back, h⟩ := h
    rw [List.append_assoc] at h
    induction t generalizing front with
    | nil =>
      rw [encode_cons, hfirst] at h
      simp [encode] at h
    | cons d ds ih =>
      cases front with
      | nil => exact (prefix_of_encode ⟨back, h⟩).isInfix
      | cons x front =>
        -- The octets start behind the first octet of `d`, but not inside of `d`
        have hrest : ∃ front, front ++ (encode (c :: cs) ++ back) = encode ds := by
          rw [encode_cons d] at h
          rcases utf8EncodeChar_cases d with ⟨-, hd⟩ | ⟨-, lead, others, hd, -, hothers⟩
          · rw [hd] at h
            exact ⟨front, (List.cons.inj h).2⟩
          · rw [hd] at h
            rcases List.append_eq_append_iff.1 (List.cons.inj h).2 with
              ⟨inside, rfl, hinside⟩ | ⟨behind, rfl, hbehind⟩
            · cases inside with
              | nil => exact ⟨[], hinside⟩
              | cons y ys =>
                rw [encode_cons, hfirst] at hinside
                obtain ⟨rfl, -⟩ := List.cons.inj hinside
                exact absurd (hothers _ (by simp)) hbegins
            · exact ⟨behind, hbehind.symm⟩
        obtain ⟨front, hfront⟩ := hrest
        exact (ih front hfront).trans (List.suffix_cons d ds).isInfix

/-! ## What is shown of octets -/

/-- The least number that a character under way can have. -/
def Partial.least (p : Partial) : Nat :=
  (p.bits * 64 + (p.low.toNat - 0x80)) * 64 ^ (p.missing - 1)

/-- The numbers that a character under way can have are below this one. -/
def Partial.bound (p : Partial) : Nat :=
  (p.bits * 64 + (p.high.toNat - 0x80) + 1) * 64 ^ (p.missing - 1)

/-- A character under way can only become one that takes more than one octet. -/
structure Partial.Sound (p : Partial) : Prop where
  missing : 1 ≤ p.missing
  low : 0x80 ≤ p.low.toNat
  beyond : 0x80 ≤ p.least
  valid : p.bound ≤ 0xD800 ∨ 0xE000 ≤ p.least ∧ p.bound ≤ 0x110000

/-- What an octet starts is sound. -/
theorem sound_of_start {b : UInt8} {p : Partial} (h : start b = .more p) : p.Sound := by
  have hb : b.toNat < 256 := b.toNat_lt
  -- Each range of first octets has its own bounds for the next one
  have hsound : ∀ bits missing low high, Start.more ⟨bits, missing, low, high⟩ = .more p →
      1 ≤ missing → 0x80 ≤ low.toNat →
      0x80 ≤ (bits * 64 + (low.toNat - 0x80)) * 64 ^ (missing - 1) →
      (let bound := (bits * 64 + (high.toNat - 0x80) + 1) * 64 ^ (missing - 1)
       bound ≤ 0xD800 ∨ 0xE000 ≤ (bits * 64 + (low.toNat - 0x80)) * 64 ^ (missing - 1) ∧
        bound ≤ 0x110000) → p.Sound := by
    rintro bits missing low high ⟨⟩ hmissing hlow hbeyond hvalid
    exact ⟨hmissing, hlow, hbeyond, hvalid⟩
  simp only [start] at h
  split at h
  · cases h
  split at h
  · cases h
  split at h
  · exact hsound _ _ _ _ h (by simp) (by simp) (by simp; omega) (by simp; omega)
  split at h
  · exact hsound _ _ _ _ h (by simp) (by simp) (by simp) (by simp)
  split at h
  · exact hsound _ _ _ _ h (by simp) (by simp) (by simp) (by simp)
  split at h
  · exact hsound _ _ _ _ h (by simp) (by simp) (by simp; omega) (by simp; omega)
  split at h
  · exact hsound _ _ _ _ h (by simp) (by simp) (by simp) (by simp)
  split at h
  · exact hsound _ _ _ _ h (by simp) (by simp) (by simp; omega) (by simp; omega)
  split at h
  · exact hsound _ _ _ _ h (by simp) (by simp) (by simp) (by simp)
  · cases h

/-- An octet that continues a character under way narrows down the numbers that it can have. -/
theorem Partial.Sound.continue {p : Partial} (h : p.Sound) {b : UInt8} (hlow : p.low ≤ b)
    (hhigh : b ≤ p.high) (hmore : ¬ p.missing ≤ 1) :
    (Partial.mk (p.bits * 64 + (b.toNat - 0x80)) (p.missing - 1) 0x80 0xBF).Sound := by
  obtain ⟨k, hk⟩ : ∃ k, p.missing = k + 2 := ⟨p.missing - 2, by omega⟩
  rw [UInt8.le_iff_toNat_le] at hlow hhigh
  have hvalid := h.low
  generalize hnext : Partial.mk (p.bits * 64 + (b.toNat - 0x80)) (p.missing - 1) 0x80 0xBF = next
  -- Six bits more are known, and six fewer are missing
  have hpow : 64 ^ (p.missing - 1) = 64 * 64 ^ (next.missing - 1) := by
    rw [← hnext, hk]
    exact Nat.pow_succ'
  -- The numbers left are among those that were possible before
  have hleast : p.least ≤ next.least := by
    rw [Partial.least, Partial.least, hpow, ← Nat.mul_assoc]
    apply Nat.mul_le_mul_right
    simp only [← hnext, UInt8.reduceToNat]
    omega
  have hbound : next.bound ≤ p.bound := by
    rw [Partial.bound, Partial.bound, hpow, ← Nat.mul_assoc]
    apply Nat.mul_le_mul_right
    simp only [← hnext, UInt8.reduceToNat]
    omega
  refine ⟨?_, ?_, Nat.le_trans h.beyond hleast, ?_⟩
  · simp [← hnext, hk]
  · simp [← hnext]
  · exact h.valid.imp (Nat.le_trans hbound) fun ⟨hover, hunder⟩ =>
      ⟨Nat.le_trans hover hleast, Nat.le_trans hbound hunder⟩

/-- The last octet of a character gives a number beyond one octet. -/
theorem Partial.Sound.complete {p : Partial} (h : p.Sound) {b : UInt8} (hlow : p.low ≤ b)
    (hhigh : b ≤ p.high) (hlast : p.missing ≤ 1) :
    0x80 ≤ (Char.ofNat (p.bits * 64 + (b.toNat - 0x80))).toNat := by
  obtain ⟨bits, missing, low, high⟩ := p
  obtain ⟨hmissing, hvalid, hbeyond, hbound⟩ := h
  dsimp only at hlow hhigh hlast hmissing ⊢
  obtain rfl : missing = 1 := by omega
  rw [UInt8.le_iff_toNat_le] at hlow hhigh
  simp only [Partial.least, Partial.bound, Nat.sub_self, Nat.pow_zero, Nat.mul_one]
    at hbeyond hbound hvalid
  -- The number lies within the bounds, so it is that of a character
  rw [toNat_ofNat]
  · omega
  · show _ < 0xD800 ∨ 0xDFFF < _ ∧ _ < 0x110000
    omega

/-- An octet is a character of its own only below `80`. -/
theorem start_eq_done {b : UInt8} {c : Char} (h : start b = .done c) :
    c.toNat = b.toNat ∧ b.toNat < 0x80 := by
  simp only [start] at h
  split at h
  · next hb =>
    obtain rfl := Start.done.inj h
    exact ⟨toNat_ofNat (.inl (Nat.lt_trans hb (by decide))), hb⟩
  · repeat' split at h
    all_goals cases h

/-- All that one octet does: it completes the character under way, it continues it, or it is read
between characters, and what was under way is given up. -/
theorem step_cases (pending : Option Partial) (b : UInt8) :
    (∃ p, pending = some p ∧ p.low ≤ b ∧ b ≤ p.high ∧ p.missing ≤ 1 ∧
      step pending b = ([some (Char.ofNat (p.bits * 64 + (b.toNat - 0x80)))], none)) ∨
    (∃ p, pending = some p ∧ p.low ≤ b ∧ b ≤ p.high ∧ ¬ p.missing ≤ 1 ∧ step pending b =
      ([], some ⟨p.bits * 64 + (b.toNat - 0x80), p.missing - 1, 0x80, 0xBF⟩)) ∨
    ∃ given, (∀ piece ∈ given, piece = none) ∧
      step pending b = (given ++ (enter b).1, (enter b).2) := by
  cases pending with
  | none => exact .inr (.inr ⟨[], by simp, rfl⟩)
  | some p =>
    by_cases hrange : p.low ≤ b ∧ b ≤ p.high
    · have hin : (decide (p.low ≤ b) && decide (b ≤ p.high)) = true := by simpa using hrange
      by_cases hlast : p.missing ≤ 1
      · exact .inl ⟨p, rfl, hrange.1, hrange.2, hlast, by simp [step, hin, hlast]⟩
      · exact .inr (.inl ⟨p, rfl, hrange.1, hrange.2, hlast, by simp [step, hin, hlast]⟩)
    · have hout : (decide (p.low ≤ b) && decide (b ≤ p.high)) = false := by simpa using hrange
      exact .inr (.inr ⟨[none], by simp, by simp [step, hout]⟩)

/-- A character that an octet starts is sound. -/
theorem sound_of_enter {b : UInt8} {next : Partial} (h : (enter b).2 = some next) :
    next.Sound := by
  unfold enter at h
  split at h
  · simp at h
  · next p hstart =>
    rw [← Option.some.inj h]
    exact sound_of_start hstart
  · simp at h

/-- A character that comes to be under way is sound. -/
theorem sound_of_step {pending : Option Partial} (hpending : ∀ p, pending = some p → p.Sound)
    {b : UInt8} {next : Partial} (h : (step pending b).2 = some next) : next.Sound := by
  rcases step_cases pending b with ⟨p, -, -, -, -, hstep⟩ | ⟨p, hp, hlow, hhigh, hmore, hstep⟩ |
    ⟨given, -, hstep⟩
  · simp [hstep] at h
  · rw [hstep] at h
    rw [← Option.some.inj h]
    exact (hpending p hp).continue hlow hhigh hmore
  · rw [hstep] at h
    exact sound_of_enter h

section SingleOctet

variable {c : Char} {b : UInt8} (hc : c.toNat = b.toNat) (hb : b < 0x80)

include hc hb

omit hb in
/-- A character that is an octet of its own comes of that octet. -/
theorem eq_of_mem_enter {x : UInt8} (h : some c ∈ (enter x).1) : x = b := by
  unfold enter at h
  split at h
  · next d hstart =>
    obtain rfl := Option.some.inj (List.mem_singleton.1 h)
    rw [← UInt8.toNat_inj, ← hc, (start_eq_done hstart).1]
  · simp at h
  · simp at h

/-- An octet completes a character of one octet only if it is that octet. -/
theorem eq_of_mem_step {pending : Option Partial} (hpending : ∀ p, pending = some p → p.Sound)
    {x : UInt8} (h : some c ∈ (step pending x).1) : x = b := by
  rcases step_cases pending x with ⟨p, hp, hlow, hhigh, hlast, hstep⟩ | ⟨p, -, -, -, -, hstep⟩ |
    ⟨given, hgiven, hstep⟩
  -- What is under way becomes a character of several octets
  · have hbeyond := (hpending p hp).complete hlow hhigh hlast
    rw [hstep] at h
    rw [← Option.some.inj (List.mem_singleton.1 h), hc] at hbeyond
    exact absurd (UInt8.lt_iff_toNat_lt.1 hb) (Nat.not_lt.2 hbeyond)
  · simp [hstep] at h
  · rw [hstep] at h
    rcases List.mem_append.1 h with hmem | hmem
    · cases hgiven _ hmem
    · exact eq_of_mem_enter hc hmem

/-- What comes of octets is a character of one octet only where its octet stands. -/
theorem mem_of_mem_piecesFrom {pending : Option Partial}
    (hpending : ∀ p, pending = some p → p.Sound) {bytes : List UInt8}
    (h : some c ∈ piecesFrom pending bytes) : b ∈ bytes := by
  induction bytes generalizing pending with
  | nil =>
    rw [piecesFrom] at h
    split at h <;> simp at h
  | cons x xs ih =>
    rcases List.mem_append.1 h with h | h
    · exact List.mem_cons.2 (.inl (eq_of_mem_step hc hb hpending h).symm)
    · exact List.mem_cons_of_mem _ (ih (fun _ => sound_of_step hpending) h)

/-- A character of one octet is shown only where its octet stands. -/
theorem mem_of_mem_lossy {bytes : List UInt8} (h : c ∈ lossy bytes) : b ∈ bytes := by
  obtain ⟨piece, hpiece, hshown⟩ := List.mem_map.1 h
  cases piece with
  | none =>
    -- The replacement character takes more than one octet
    obtain rfl : replacement = c := hshown
    exact absurd (UInt8.lt_iff_toNat_lt.1 hb) (hc ▸ by decide)
  | some d =>
    obtain rfl : d = c := hshown
    exact mem_of_mem_piecesFrom hc hb (by simp) hpiece

end SingleOctet

end TweetHarvest.Utf8
