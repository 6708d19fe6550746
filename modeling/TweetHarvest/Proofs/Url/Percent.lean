import TweetHarvest.Text.Utf8
import TweetHarvest.Url.Percent

/-!
# Percent encoding is undone by decoding

## Key results

- `Percent.encode_eq_self`: a text of characters that are not encoded stays as it is
- `Percent.mem_encode`: the characters of an encoded text
- `Percent.decode_encode`: if percent signs are encoded, decoding gives the octets of the text
-/

namespace TweetHarvest

namespace Percent

variable {coded : Char → Bool}

/-- A text of characters that are not encoded stays as it is. -/
theorem encode_eq_self {s : List Char} (h : ∀ c ∈ s, encodeChar coded c = [c]) :
    encode coded s = s := by
  induction s with
  | nil => rfl
  | cons c cs ih =>
    have hcs := ih fun d hd => h d (List.mem_cons_of_mem _ hd)
    rw [encode] at hcs ⊢
    rw [List.flatMap_cons, h c (List.mem_cons_self ..), hcs, List.singleton_append]

/-- A character of an encoded text is one that is not encoded, or it is part of an encoded octet. -/
theorem mem_encode {s : List Char} {c : Char} (h : c ∈ encode coded s) :
    coded c = false ∨ c = '%' ∨ ∃ d < 16, c = Hex.upper d := by
  obtain ⟨b, -, hb⟩ := List.mem_flatMap.1 h
  unfold encodeChar at hb
  split at hb
  · next hplain =>
    obtain rfl := List.mem_singleton.1 hb
    simp only [Bool.and_eq_true, Bool.not_eq_true'] at hplain
    exact .inl hplain.2
  · obtain ⟨octet, -, hc⟩ := List.mem_flatMap.1 hb
    -- An octet is written with two hexadecimal digits
    have hoctet : octet.toNat < 256 := octet.toNat_lt
    simp only [encodeOctet, List.mem_cons, List.not_mem_nil, or_false] at hc
    rcases hc with rfl | rfl | rfl
    · exact .inr (.inl rfl)
    · exact .inr (.inr ⟨_, by omega, rfl⟩)
    · exact .inr (.inr ⟨_, by omega, rfl⟩)

/-! ## Decoding -/

/-- An encoded octet is decoded. -/
theorem decode_encodeOctet (b : UInt8) (rest : List Char) :
    decode (encodeOctet b ++ rest) = b :: decode rest := by
  have hb : b.toNat < 256 := b.toNat_lt
  have hhigh := Hex.value?_upper (d := b.toNat / 16) (by omega)
  have hlow := Hex.value?_upper (d := b.toNat % 16) (by omega)
  have hsum : 16 * (b.toNat / 16) + b.toNat % 16 = b.toNat := Nat.div_add_mod ..
  simp only [encodeOctet, List.cons_append, List.nil_append, decode, hhigh, hlow, hsum]
  rw [Nat.toUInt8_eq, UInt8.ofNat_toNat]

/-- Encoded octets are decoded one by one. -/
theorem decode_flatMap_encodeOctet (bytes : List UInt8) (rest : List Char) :
    decode (bytes.flatMap encodeOctet ++ rest) = bytes ++ decode rest := by
  induction bytes with
  | nil => rfl
  | cons b bytes ih =>
    rw [List.flatMap_cons, List.append_assoc, decode_encodeOctet, ih, List.cons_append]

/-- A character other than the percent sign stands for itself. -/
theorem decode_cons {c : Char} (h : c ≠ '%') (rest : List Char) :
    decode (c :: rest) = String.utf8EncodeChar c ++ decode rest := by
  rw [decode]
  intro a b tail hc
  exact absurd hc h

/-- If percent signs are encoded, decoding gives the octets of the text. -/
theorem decode_encode (hpercent : coded '%' = true) (s : List Char) :
    decode (encode coded s) = Utf8.encode s := by
  induction s with
  | nil => rfl
  | cons c cs ih =>
    -- A character that is kept is no percent sign, so it is not mistaken for an escape
    have hchar (rest : List Char) :
        decode (encodeChar coded c ++ rest) = String.utf8EncodeChar c ++ decode rest := by
      unfold encodeChar
      split
      · next hplain =>
        have hc : c ≠ '%' := by
          rintro rfl
          simp [hpercent] at hplain
        exact decode_cons hc rest
      · exact decode_flatMap_encodeOctet _ rest
    rw [encode, List.flatMap_cons, hchar]
    exact congrArg (String.utf8EncodeChar c ++ ·) ih

end Percent

end TweetHarvest
