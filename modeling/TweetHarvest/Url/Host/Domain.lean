import TweetHarvest.Text.Blank
import TweetHarvest.Url.Host.Label
import TweetHarvest.Url.Host.Mapping
import TweetHarvest.Url.Host.Punycode

/-!
# Domain names

* `Domain.toAscii?`  the ASCII form of a domain name: spelled in one way, labels with other
  characters encoded, `none` where the name is not allowed
-/

namespace TweetHarvest.Domain

/-- The ASCII characters that no domain name may hold. -/
def isForbidden (c : Char) : Bool :=
  c.toNat ≤ 0x20 || c.toNat = 0x7F || "%#/:<>?@[\\]^|".toList.contains c

/-- Whether a character is ASCII. -/
def isAscii (c : Char) : Bool := c.toNat < 0x80

/-- What an encoded label starts with. -/
def encodedMark : List Char := ['x', 'n', '-', '-']

/-- How many characters follow the mark of an encoded label at most. -/
def maxEncodedLength : Nat := 2000

/-- The label that an encoded one stands for.  It has to be one that needs the encoding and is
spelled as it should be. -/
def decodeLabel? (encoded : List Char) : Option (List Char) := do
  if maxEncodedLength < encoded.length || encoded.getLast? = some '-' then failure
  let label ← Punycode.decode? encoded
  -- What needs no encoding or is not in its normal spelling is refused
  if label.all isAscii || spell? label ≠ some label || !Label.isSound label then failure
  return label

/-- The ASCII form of a label of a spelled name, with the label that it stands for. -/
def labelToAscii? (label : List Char) : Option (List Char × List Char) := do
  if encodedMark.isPrefixOf label then
    if !label.all isAscii then failure
    return (label, ← decodeLabel? (label.drop encodedMark.length))
  else if label.all isAscii then return (label, label)
  else if Label.isSound label then return (encodedMark ++ Punycode.encode label, label)
  else failure

/-- The ASCII form of a domain name. -/
def toAscii? (name : List Char) : Option (List Char) := do
  let spelled ← spell? name
  -- Spelling may bring forth characters that were not there before
  if spelled.any isForbidden then failure
  let labels ← (Text.splitOn '.' spelled).mapM labelToAscii?
  if !Label.followDirections (labels.map Prod.snd) then failure
  return Text.joinWith '.' (labels.map Prod.fst)

end TweetHarvest.Domain
