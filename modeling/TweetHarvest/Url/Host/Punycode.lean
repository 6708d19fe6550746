/-!
# Punycode

The encoding of a label with characters beyond ASCII by ASCII letters and digits.  The ASCII
characters stand in front; behind the last hyphen follow numbers that tell where the other
characters are inserted, in ascending order of the characters.

* `Punycode.encode`  the encoded label, without the `xn--` in front
* `Punycode.decode?` the label of an encoded one
-/

namespace TweetHarvest.Punycode

/-- The digit of a number below 36: letters first, then the ten digits. -/
def digit (d : Nat) : Char :=
  if d < 26 then Char.ofNat (97 + d) else Char.ofNat (22 + d)

/-- The value of a digit. -/
def digitValue? (c : Char) : Option Nat :=
  if 'a' ≤ c && c ≤ 'z' then some (c.toNat - 97)
  else if 'A' ≤ c && c ≤ 'Z' then some (c.toNat - 65)
  else if c.isDigit then some (c.toNat - 22)
  else none

/-- The least value that is not the last digit of a number, at weight `k`. -/
def threshold (bias k : Nat) : Nat :=
  if k ≤ bias + 1 then 1 else if bias + 26 ≤ k then 26 else k - bias

/-- Reduces a distance until it is below the skew, counting the steps by 36. -/
def adaptFrom (k delta : Nat) : Nat :=
  -- The bound is half of 35 times 26
  if 455 < delta then adaptFrom (k + 36) (delta / 35)
  else k + 36 * delta / (delta + 38)
termination_by delta
decreasing_by omega

/-- The bias after a number `delta`, with `points` characters written so far. -/
def adapt (delta points : Nat) (first : Bool) : Nat :=
  -- The first number is damped, since it has to reach beyond ASCII
  let scaled := if first then delta / 700 else delta / 2
  adaptFrom 0 (scaled + scaled / points)

/-- The digits of a number, least weight first. -/
def numberDigits (bias k q : Nat) : List Char :=
  let t := threshold bias k
  if q < t then [digit q]
  else if h : (q - t) / (36 - t) < q then
    digit (t + (q - t) % (36 - t)) :: numberDigits bias (k + 36) ((q - t) / (36 - t))
  else []
termination_by q

/-- The state of the encoder. -/
structure EncoderState where
  delta : Nat
  bias : Nat
  handled : Nat
  output : List Char

/-- Goes over the label for the character `n`: smaller characters count, equal ones are written. -/
def encodePass (n basic : Nat) (s : EncoderState) (c : Nat) : EncoderState :=
  if c < n then { s with delta := s.delta + 1 }
  else if c = n then
    { delta := 0
      bias := adapt s.delta (s.handled + 1) (s.handled == basic)
      handled := s.handled + 1
      output := s.output ++ numberDigits s.bias 36 s.delta }
  else s

/-- Writes the characters `points`, which are in ascending order, the one before them being
`n - 1`. -/
def encodePoints (label : List Nat) (basic n : Nat) (s : EncoderState) : List Nat → EncoderState
  | [] => s
  | m :: rest =>
    -- All characters between the two are passed over in one step
    let start := { s with delta := s.delta + (m - n) * (s.handled + 1) }
    let after := label.foldl (encodePass m basic) start
    encodePoints label basic (m + 1) { after with delta := after.delta + 1 } rest

/-- Puts a number into an ascending list, once. -/
def insertPoint (n : Nat) : List Nat → List Nat
  | [] => [n]
  | m :: rest => if n < m then n :: m :: rest else if n = m then m :: rest else
    m :: insertPoint n rest

/-- The encoded label. -/
def encode (label : List Char) : List Char :=
  let basic := label.filter (·.toNat < 0x80)
  let points := (label.map Char.toNat).filter (0x80 ≤ ·) |>.foldl (fun ps n => insertPoint n ps) []
  let front := if basic.isEmpty then [] else basic ++ ['-']
  let start : EncoderState := ⟨0, 72, basic.length, []⟩
  front ++ (encodePoints (label.map Char.toNat) basic.length 0x80 start points).output

/-- The state of the decoder: the number being read with its weight, and what has been decoded. -/
structure DecoderState where
  /-- The position reached, including the digits read so far. -/
  position : Nat
  /-- The position before the number. -/
  before : Nat
  weight : Nat
  k : Nat
  bias : Nat
  point : Nat
  output : List Char

/-- The character with a code point, if there is one. -/
def char? (n : Nat) : Option Char :=
  if h : n.isValidChar then some (Char.ofNatAux n h) else none

/-- Reads one digit.  Neither the number nor the weight of the next digit may need more than 32
bits. -/
def decodeDigit (s : DecoderState) (c : Char) : Option DecoderState := do
  let d ← digitValue? c
  let t := threshold s.bias s.k
  let position := s.position + d * s.weight
  if UInt32.size ≤ position then failure
  else if t ≤ d then
    let weight := s.weight * (36 - t)
    if UInt32.size ≤ weight then failure
    return { s with position, weight, k := s.k + 36 }
  else
    -- The number ends with this digit: it tells the character and its place
    let points := s.output.length + 1
    let point := s.point + position / points
    let place := position % points
    let c ← char? point
    return {
      position := place + 1
      before := place + 1
      weight := 1
      k := 36
      bias := adapt (position - s.before) points (s.before == 0)
      point
      output := s.output.take place ++ c :: s.output.drop place }

/-- Splits a text at its last hyphen.  All of it is on the right if there is none, or none behind
another character. -/
def splitLastHyphen (s : List Char) : List Char × List Char :=
  let tail := (s.reverse.takeWhile (· ≠ '-')).reverse
  let front := s.take (s.length - tail.length - 1)
  if front.isEmpty then ([], s) else (front, tail)

/-- The label of an encoded one. -/
def decode? (s : List Char) : Option (List Char) := do
  let (basic, digits) := splitLastHyphen s
  if basic.any (0x80 ≤ ·.toNat) then failure
  let start : DecoderState := ⟨0, 0, 1, 36, 72, 0x80, basic⟩
  let last ← digits.foldlM decodeDigit start
  -- No number may be left unfinished
  if last.k = 36 then return last.output else failure

end TweetHarvest.Punycode
