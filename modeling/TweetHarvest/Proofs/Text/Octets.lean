import TweetHarvest.Text.Utf8

/-!
# Octets decoded

The octets of a text are decoded to the text, without any gaps.  A leading octet tells how many
octets are to follow and what the next one may be, and each of them adds six bits.

## Key results

- `Utf8.piecesFrom_continue`, `Utf8.piecesFrom_complete`: an octet that continues a character
- `Utf8.pieces_utf8EncodeChar`: the octets of a character are decoded to the character
- `Utf8.lossy_encode`, `Utf8.encode_inj`: the octets of a text are decoded to the text
-/

namespace TweetHarvest.Utf8

theorem toNat_octet {n : Nat} (h : n < 256) : (UInt8.ofNat n).toNat = n :=
  UInt8.toNat_ofNat_of_lt' h

/-! ## Octets that continue a character -/

section Pending

variable {bits missing n : Nat} {low high : UInt8} (hlow : low.toNat ≤ n % 64 + 128)
  (hhigh : n % 64 + 128 ≤ high.toNat) (rest : List UInt8)

include hlow hhigh

/-- Six more bits of the character under way, the last ones or not. -/
private theorem step_continue : step (some ⟨bits, missing, low, high⟩) (.ofNat (n % 64 + 128)) =
    if missing ≤ 1 then ([some (Char.ofNat (bits * 64 + n % 64))], none)
    else ([], some ⟨bits * 64 + n % 64, missing - 1, 0x80, 0xBF⟩) := by
  have hoctet : (UInt8.ofNat (n % 64 + 128)).toNat = n % 64 + 128 := toNat_octet (by omega)
  have hrange : (low ≤ .ofNat (n % 64 + 128) && UInt8.ofNat (n % 64 + 128) ≤ high) = true := by
    simp only [Bool.and_eq_true, decide_eq_true_eq, UInt8.le_iff_toNat_le, hoctet]
    exact ⟨hlow, hhigh⟩
  simp only [step, hrange, if_true, hoctet, Nat.add_sub_cancel]

/-- An octet in the range that is allowed adds six bits. -/
theorem piecesFrom_continue :
    piecesFrom (some ⟨bits, missing + 2, low, high⟩) (.ofNat (n % 64 + 128) :: rest) =
      piecesFrom (some ⟨bits * 64 + n % 64, missing + 1, 0x80, 0xBF⟩) rest := by
  rw [piecesFrom, step_continue hlow hhigh, if_neg (by omega)]
  rfl

/-- The last octet completes the character. -/
theorem piecesFrom_complete :
    piecesFrom (some ⟨bits, 1, low, high⟩) (.ofNat (n % 64 + 128) :: rest) =
      some (Char.ofNat (bits * 64 + n % 64)) :: piecesFrom none rest := by
  rw [piecesFrom, step_continue hlow hhigh, if_pos (Nat.le_refl 1)]
  rfl

end Pending

/-! ## Leading octets -/

/-- A leading octet that asks for more. -/
theorem piecesFrom_more {b : UInt8} {p : Partial} (h : start b = .more p) (rest : List UInt8) :
    piecesFrom none (b :: rest) = piecesFrom (some p) rest := by
  rw [piecesFrom, step, enter, h]
  rfl

/-- A single octet is a whole character. -/
theorem start_of_ascii {v : Nat} (h : v ≤ 127) : start (.ofNat v) = .done (Char.ofNat v) := by
  simp only [start, toNat_octet (show v < 256 by omega)]
  rw [if_pos (by omega)]

/-- Of two octets the first one has at most five bits. -/
theorem start_of_two {v : Nat} (hlow : 0x80 ≤ v) (hhigh : v ≤ 0x7FF) :
    start (.ofNat (v / 64 % 32 + 192)) = .more ⟨v / 64, 1, 0x80, 0xBF⟩ := by
  simp only [start, toNat_octet (show v / 64 % 32 + 192 < 256 by omega)]
  rw [if_neg (by omega), if_neg (by omega), if_pos (by omega),
    show v / 64 % 32 + 192 - 0xC0 = v / 64 by omega]

/-- Of three octets the first one has at most four bits.  The range of the second one leaves out what
fits into two octets, and the surrogates. -/
theorem start_of_three {v : Nat} (hlow : 0x800 ≤ v) (hhigh : v ≤ 0xFFFF)
    (hsurrogate : v < 0xD800 ∨ 0xDFFF < v) :
    ∃ low high, start (.ofNat (v / 4096 % 16 + 224)) = .more ⟨v / 4096, 2, low, high⟩ ∧
      low.toNat ≤ v / 64 % 64 + 128 ∧ v / 64 % 64 + 128 ≤ high.toNat := by
  simp only [start, toNat_octet (show v / 4096 % 16 + 224 < 256 by omega)]
  rw [if_neg (by omega), if_neg (by omega), if_neg (by omega),
    show v / 4096 % 16 + 224 - 0xE0 = v / 4096 by omega]
  -- The first of the sixteen values starts above what two octets hold
  by_cases hfirst : v / 4096 = 0
  · rw [if_pos (by omega), hfirst]
    exact ⟨_, _, rfl, show 0xA0 ≤ _ by omega, show _ ≤ 0xBF by omega⟩
  · rw [if_neg (by omega)]
    by_cases hlast : v / 4096 = 0xD
    -- The surrogates are left out here
    · rw [if_pos (by omega), hlast]
      exact ⟨_, _, rfl, show 0x80 ≤ _ by omega, show _ ≤ 0x9F by omega⟩
    · rw [if_neg (by omega), if_pos (by omega)]
      exact ⟨_, _, rfl, show 0x80 ≤ _ by omega, show _ ≤ 0xBF by omega⟩

/-- Of four octets the first one has at most three bits.  The range of the second one leaves out what
fits into three octets, and what is beyond the last character. -/
theorem start_of_four {v : Nat} (hlow : 0x10000 ≤ v) (hhigh : v < 0x110000) :
    ∃ low high, start (.ofNat (v / 262144 % 8 + 240)) = .more ⟨v / 262144, 3, low, high⟩ ∧
      low.toNat ≤ v / 4096 % 64 + 128 ∧ v / 4096 % 64 + 128 ≤ high.toNat := by
  simp only [start, toNat_octet (show v / 262144 % 8 + 240 < 256 by omega)]
  rw [if_neg (by omega), if_neg (by omega), if_neg (by omega), if_neg (by omega),
    if_neg (by omega), if_neg (by omega), show v / 262144 % 8 + 240 - 0xF0 = v / 262144 by omega]
  -- The first of the five values starts above what three octets hold
  by_cases hfirst : v / 262144 = 0
  · rw [if_pos (by omega), hfirst]
    exact ⟨_, _, rfl, show 0x90 ≤ _ by omega, show _ ≤ 0xBF by omega⟩
  · rw [if_neg (by omega)]
    by_cases hlast : v / 262144 = 4
    -- The last one ends with the last character
    · rw [if_neg (by omega), if_pos (by omega), hlast]
      exact ⟨_, _, rfl, show 0x80 ≤ _ by omega, show _ ≤ 0x8F by omega⟩
    · rw [if_pos (by omega)]
      exact ⟨_, _, rfl, show 0x80 ≤ _ by omega, show _ ≤ 0xBF by omega⟩

/-! ## Characters and texts -/

/-- The octets of a character are decoded to the character. -/
theorem piecesFrom_utf8EncodeChar (c : Char) (rest : List UInt8) :
    piecesFrom none (String.utf8EncodeChar c ++ rest) = some c :: piecesFrom none rest := by
  have hvalid : c.val.toNat < 0xD800 ∨ 0xDFFF < c.val.toNat ∧ c.val.toNat < 0x110000 := c.valid
  have hc : Char.ofNat c.val.toNat = c := Char.ofNat_toNat c
  simp only [String.utf8EncodeChar]
  generalize c.val.toNat = v at hvalid hc
  rw [← hc]
  -- One case for each number of octets
  split
  · next hone =>
    rw [List.singleton_append, piecesFrom, step, enter, start_of_ascii hone]
    rfl
  split
  · next hone htwo =>
    have hbits : v / 64 * 64 + v % 64 = v := by omega
    rw [List.cons_append, List.singleton_append, piecesFrom_more (start_of_two (by omega) htwo),
      piecesFrom_complete (show 0x80 ≤ _ by omega) (show _ ≤ 0xBF by omega), hbits]
  split
  · next hone htwo hthree =>
    obtain ⟨low, high, hstart, hlow, hhigh⟩ := start_of_three (v := v) (by omega) hthree (by omega)
    have hbits : (v / 4096 * 64 + v / 64 % 64) * 64 + v % 64 = v := by omega
    rw [List.cons_append, List.cons_append, List.singleton_append, piecesFrom_more hstart,
      piecesFrom_continue hlow hhigh,
      piecesFrom_complete (show 0x80 ≤ _ by omega) (show _ ≤ 0xBF by omega), hbits]
  · next hone htwo hthree =>
    obtain ⟨low, high, hstart, hlow, hhigh⟩ := start_of_four (v := v) (by omega) (by omega)
    have hbits : ((v / 262144 * 64 + v / 4096 % 64) * 64 + v / 64 % 64) * 64 + v % 64 = v := by omega
    rw [List.cons_append, List.cons_append, List.cons_append, List.singleton_append,
      piecesFrom_more hstart, piecesFrom_continue hlow hhigh,
      piecesFrom_continue (show 0x80 ≤ _ by omega) (show _ ≤ 0xBF by omega),
      piecesFrom_complete (show 0x80 ≤ _ by omega) (show _ ≤ 0xBF by omega), hbits]

/-- The octets of a text are decoded without gaps. -/
theorem pieces_encode (s : List Char) : pieces (encode s) = s.map some := by
  rw [pieces, encode]
  induction s with
  | nil => rfl
  | cons c cs ih => rw [List.flatMap_cons, piecesFrom_utf8EncodeChar, ih, List.map_cons]

/-- The octets of a text are decoded to the text. -/
theorem lossy_encode (s : List Char) : lossy (encode s) = s := by
  rw [lossy, pieces_encode, List.map_map]
  exact List.map_id s

/-- Different texts have different octets. -/
theorem encode_inj {s t : List Char} : encode s = encode t ↔ s = t := by
  refine ⟨fun h => ?_, fun h => h ▸ rfl⟩
  rw [← lossy_encode s, h, lossy_encode]

end TweetHarvest.Utf8
