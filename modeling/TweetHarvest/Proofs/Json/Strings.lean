import TweetHarvest.Json.Node
import TweetHarvest.Json.Printer

/-!
# Reading printed strings

Every character of a string is printed as one piece, and the pieces give the characters back.

## Key results

- `readString_quote`: a printed string is read back
-/

namespace TweetHarvest.Json

/-- The piece as which a character is read back: the sixteen bits of a `\\u` escape, or itself. -/
def pieceOf (c : Char) : Piece :=
  if c.toNat < 0x20 ∧ c ∉ ['\n', '\r', '\t', '\x08', '\x0c'] then .unit c.toNat else .char c

/-- The four digits of an escape are those of its character. -/
private theorem hexUnit?_lower {n : Nat} (h : n < 0x20) :
    hexUnit? '0' '0' (Hex.lower (n / 16)) (Hex.lower (n % 16)) = some n := by
  have hzero : Hex.value? '0' = some 0 := by decide
  simp only [hexUnit?, hzero, Hex.value?_lower (show n / 16 < 16 by omega),
    Hex.value?_lower (show n % 16 < 16 by omega)]
  show some _ = some n
  congr 1
  omega

/-- A printed character is read as one piece. -/
theorem readPieces_escape (c : Char) (rest : List Char) :
    readPieces (escape c ++ rest) = (pieceOf c :: (readPieces rest).1, (readPieces rest).2) := by
  unfold escape
  split
  · next h => subst h; rfl
  split
  · next h => subst h; rfl
  split
  · next h => subst h; rfl
  split
  · next h => subst h; rfl
  split
  · next h => subst h; rfl
  split
  · next h => subst h; rfl
  split
  · next h => subst h; rfl
  split
  -- A control character without a letter of its own is written by its number
  · next hn hr ht hb hf hsmall =>
    have hpiece : pieceOf c = .unit c.toNat := if_pos ⟨hsmall, by simp [hn, hr, ht, hb, hf]⟩
    simp only [List.cons_append, List.nil_append, hpiece]
    rw [readPieces, hexUnit?_lower hsmall]
  -- All others stand for themselves
  · next hquote hbackslash _ _ _ _ _ hlarge =>
    have hpiece : pieceOf c = .char c := if_neg fun h => hlarge h.1
    rw [hpiece, List.singleton_append, readPieces.eq_def]
    split <;> simp_all

/-- A unit that is no surrogate stands for a character of its own. -/
theorem joinPieces_unit {n : Nat} (h : n < 0x20) (rest : List Piece) :
    joinPieces none (.unit n :: rest) = (joinPieces none rest).map (Char.ofNat n :: ·) := by
  -- A control character lies far below the surrogates
  have hlow : isLowSurrogate n = false := by
    simp only [isLowSurrogate, Bool.and_eq_false_iff, decide_eq_false_iff_not]
    omega
  have hhigh : isHighSurrogate n = false := by
    simp only [isHighSurrogate, Bool.and_eq_false_iff, decide_eq_false_iff_not]
    omega
  cases rest with
  | nil => simp [joinPieces, hlow, hhigh, Except.map]
  | cons piece rest =>
    cases piece with
    | char c =>
      simp only [joinPieces, hlow, hhigh, Bool.or_self, Bool.false_eq_true, if_false]
    | unit m =>
      rw [joinPieces]
      simp only [hlow, hhigh, Bool.false_eq_true, if_false]

/-- The pieces of printed characters give the characters back. -/
theorem joinPieces_map_pieceOf (cs : List Char) : joinPieces none (cs.map pieceOf) = .ok cs := by
  induction cs with
  | nil => rfl
  | cons c cs ih =>
    rw [List.map_cons, pieceOf]
    -- Only control characters without a short escape become units
    split
    · next h =>
      rw [joinPieces_unit h.1, ih, Char.ofNat_toNat]
      rfl
    · rw [joinPieces, ih]
      rfl

/-- The pieces of a printed string end with its closing quote. -/
theorem readPieces_flatMap_escape (cs rest : List Char) :
    readPieces (cs.flatMap escape ++ '"' :: rest) = (cs.map pieceOf, .ok rest) := by
  induction cs with
  | nil => rfl
  | cons c cs ih =>
    rw [List.flatMap_cons, List.append_assoc, readPieces_escape, ih]
    rfl

/-- A printed string is read back. -/
theorem readString_quote (s : String) (rest : List Char) :
    readString (s.toList.flatMap escape ++ '"' :: rest) = .ok (.ok s, rest) := by
  simp only [readString, readPieces_flatMap_escape, joinPieces_map_pieceOf]
  simp [Except.map]

end TweetHarvest.Json
