import TweetHarvest.Text.Digits

/-!
# Percent encoding

A character that may not stand in a part of a URL is written as its octets in UTF-8, each as a
percent sign and two hexadecimal digits.  Which characters that concerns depends on the part.

* `Percent.encode`                  writes a text, given the characters to be encoded
* `Percent.decode`                  the octets of a written text
* `Percent.inPath`, `inQuery`, …    the characters that each part encodes
-/

namespace TweetHarvest.Percent

/-- An octet in encoded form. -/
def encodeOctet (b : UInt8) : List Char :=
  ['%', Hex.upper (b.toNat / 16), Hex.upper (b.toNat % 16)]

/-- A character, encoded if it is in the class or beyond ASCII. -/
def encodeChar (coded : Char → Bool) (c : Char) : List Char :=
  if c.toNat < 0x80 && !coded c then [c]
  else (String.utf8EncodeChar c).flatMap encodeOctet

/-- A text in which the characters of the class and those beyond ASCII are encoded. -/
def encode (coded : Char → Bool) (s : List Char) : List Char :=
  s.flatMap (encodeChar coded)

/-- The octets of a text: percent signs with two hexadecimal digits stand for one octet, all else
for itself. -/
def decode : List Char → List UInt8
  | [] => []
  | '%' :: a :: b :: rest =>
    match Hex.value? a, Hex.value? b with
    | some high, some low => (16 * high + low).toUInt8 :: decode rest
    | _, _ => '%'.toUInt8 :: decode (a :: b :: rest)
  | c :: rest => String.utf8EncodeChar c ++ decode rest

/-- The control characters of ASCII. -/
def isControl (c : Char) : Bool := c.toNat < 0x20 || c.toNat = 0x7F

/-- What a fragment encodes. -/
def inFragment (c : Char) : Bool := isControl c || [' ', '"', '<', '>', '\x60'].contains c

/-- What a query encodes; a special scheme adds the single quote. -/
def inQuery (special : Bool) (c : Char) : Bool :=
  isControl c || [' ', '"', '#', '<', '>'].contains c || (special && c = '\'')

/-- What a path encodes. -/
def inPath (c : Char) : Bool := inFragment c || ['#', '?', '\x7b', '\x7d'].contains c

/-- What a single segment of a path encodes; under a special scheme the backslash would divide
segments and is encoded too. -/
def inSegment (special : Bool) (c : Char) : Bool :=
  inPath c || c = '/' || c = '%' || (special && c = '\\')

/-- What a user name or password encodes. -/
def inUserInfo (c : Char) : Bool :=
  inPath c || ['/', ':', ';', '=', '@', '[', '\\', ']', '^', '|'].contains c

end TweetHarvest.Percent
