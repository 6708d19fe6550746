/-!
# UTF-8 octets

Decoding of octets that need not be UTF-8.  The decoder looks at one octet at a time and remembers
how many octets the character still needs and in which range the next one must lie; the range is
narrower after `E0`, `ED`, `F0` and `F4`, which rules out overlong forms, surrogates and values
above `U+10FFFF`.  Octets that begin no character, or a character that breaks off, are given up as
one unit each (the maximal subparts of the Unicode standard).

* `Utf8.pieces`  the characters of an octet sequence, `none` for each unit that is given up
* `Utf8.lossy`   the same with the replacement character in the gaps
* `Utf8.octets`, `Utf8.shown`  the octets of a string, and the string that octets are shown as
-/

namespace TweetHarvest.Utf8

/-- A character of which some octets have been read: the bits so far, how many octets are
missing, and the range of the next one. -/
structure Partial where
  bits : Nat
  missing : Nat
  low : UInt8
  high : UInt8

/-- What a leading octet starts. -/
inductive Start where
  | done (c : Char)
  | more (p : Partial)
  | stray

/-- Classifies an octet that stands where a character begins. -/
def start (b : UInt8) : Start :=
  let n := b.toNat
  if n < 0x80 then .done (Char.ofNat n)
  else if n < 0xC2 then .stray
  else if n < 0xE0 then .more ⟨n - 0xC0, 1, 0x80, 0xBF⟩
  else if n = 0xE0 then .more ⟨0, 2, 0xA0, 0xBF⟩
  else if n = 0xED then .more ⟨0xD, 2, 0x80, 0x9F⟩
  else if n < 0xF0 then .more ⟨n - 0xE0, 2, 0x80, 0xBF⟩
  else if n = 0xF0 then .more ⟨0, 3, 0x90, 0xBF⟩
  else if n < 0xF4 then .more ⟨n - 0xF0, 3, 0x80, 0xBF⟩
  else if n = 0xF4 then .more ⟨4, 3, 0x80, 0x8F⟩
  else .stray

/-- Reads an octet between characters. -/
def enter (b : UInt8) : List (Option Char) × Option Partial :=
  match start b with
  | .done c => ([some c], none)
  | .more p => ([], some p)
  | .stray => ([none], none)

/-- Reads one octet: what it completes, and what is pending afterwards. -/
def step (pending : Option Partial) (b : UInt8) : List (Option Char) × Option Partial :=
  match pending with
  | none => enter b
  | some p =>
    if p.low ≤ b && b ≤ p.high then
      let bits := p.bits * 64 + (b.toNat - 0x80)
      if p.missing ≤ 1 then ([some (Char.ofNat bits)], none)
      else ([], some ⟨bits, p.missing - 1, 0x80, 0xBF⟩)
    else
      let (done, next) := enter b
      (none :: done, next)

/-- The pieces that follow while `pending` is under way; a character cut off by the end of the
octets is given up. -/
def piecesFrom (pending : Option Partial) : List UInt8 → List (Option Char)
  | [] => if pending.isSome then [none] else []
  | b :: bs =>
    let (done, next) := step pending b
    done ++ piecesFrom next bs

/-- The characters of an octet sequence, with `none` for each unit that is given up. -/
def pieces (bytes : List UInt8) : List (Option Char) :=
  piecesFrom none bytes

/-- The replacement character `U+FFFD`. -/
def replacement : Char := '\uFFFD'

/-- The text of an octet sequence, with the replacement character for each unit given up. -/
def lossy (bytes : List UInt8) : List Char :=
  (pieces bytes).map (·.getD replacement)

/-- The octets of a text. -/
def encode (s : List Char) : List UInt8 :=
  s.flatMap String.utf8EncodeChar

/-- The octets of a string. -/
def octets (s : String) : List UInt8 :=
  encode s.toList

/-- The string that octets are shown as; they need not be those of the string. -/
def shown (bytes : List UInt8) : String :=
  String.ofList (lossy bytes)

/-- How many octets a text takes. -/
def size : List Char → Nat
  | [] => 0
  | c :: cs => c.utf8Size + size cs

/-- The octets of two texts add up. -/
@[simp] theorem size_append (s t : List Char) : size (s ++ t) = size s + size t := by
  induction s with
  | nil => simp [size]
  | cons c cs ih => simp only [List.cons_append, size, ih, Nat.add_assoc]

end TweetHarvest.Utf8
