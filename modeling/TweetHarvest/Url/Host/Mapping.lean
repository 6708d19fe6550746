import TweetHarvest.Text.NormalForm
import TweetHarvest.Url.Host.Forms
import TweetHarvest.Url.Host.Refused

/-!
# Spelling of domain names

Before a domain name is compared or encoded it is spelled in one way: capital letters become small
ones, other shapes of characters the plain ones, every kind of full stop the ASCII one; characters
that cannot be seen are left out, and letters and marks are composed.  The sharp s, the final sigma
and the two characters that join letters or keep them apart stay as they are.

* `Domain.shiftedRuns`  runs of characters that are replaced by others at the same distance
* `Domain.mapChar?`     what becomes of a character
* `Domain.spell?`       the spelling of a name
-/

namespace TweetHarvest.Domain

/-- Runs of characters that are replaced by one character each: the first and the last code point,
the distance from one to the next, and what the first one is replaced by. -/
def shiftedRuns : List (Nat × Nat × Nat × Nat) :=
  [(0x00C0, 0x00D6, 1, 0x00E0), (0x00D8, 0x00DE, 1, 0x00F8), (0x0100, 0x012E, 2, 0x0101),
   (0x0139, 0x013D, 2, 0x013A), (0x0141, 0x0147, 2, 0x0142), (0x014A, 0x0176, 2, 0x014B),
   (0x0179, 0x017D, 2, 0x017A), (0x01A0, 0x01A4, 2, 0x01A1), (0x01CD, 0x01DB, 2, 0x01CE),
   (0x01DE, 0x01EE, 2, 0x01DF), (0x01F8, 0x021E, 2, 0x01F9), (0x0222, 0x0232, 2, 0x0223),
   (0x0246, 0x024E, 2, 0x0247), (0x0388, 0x038A, 1, 0x03AD), (0x0391, 0x03A1, 1, 0x03B1),
   (0x03A3, 0x03AB, 1, 0x03C3), (0x03D8, 0x03EE, 2, 0x03D9), (0x03FD, 0x03FF, 1, 0x037B),
   (0x0400, 0x040F, 1, 0x0450), (0x0410, 0x042F, 1, 0x0430), (0x0460, 0x0480, 2, 0x0461),
   (0x048A, 0x04BE, 2, 0x048B), (0x04C1, 0x04CD, 2, 0x04C2), (0x04D0, 0x052E, 2, 0x04D1),
   (0x0531, 0x0556, 1, 0x0561), (0x10A0, 0x10C5, 1, 0x2D00), (0x13F8, 0x13FD, 1, 0x13F0),
   (0x1C90, 0x1CBA, 1, 0x10D0), (0x1CBD, 0x1CBF, 1, 0x10FD), (0x1D31, 0x1D39, 2, 0x0065),
   (0x1D34, 0x1D3A, 2, 0x0068), (0x1D5D, 0x1D5F, 1, 0x03B2), (0x1DA4, 0x1DA6, 1, 0x0268),
   (0x1DAE, 0x1DB1, 1, 0x0272), (0x1DBC, 0x1DBE, 1, 0x0290), (0x1E00, 0x1E94, 2, 0x1E01),
   (0x1EA0, 0x1EFE, 2, 0x1EA1), (0x1F08, 0x1F0F, 1, 0x1F00), (0x1F18, 0x1F1D, 1, 0x1F10),
   (0x1F28, 0x1F2F, 1, 0x1F20), (0x1F38, 0x1F3F, 1, 0x1F30), (0x1F48, 0x1F4D, 1, 0x1F40),
   (0x1F59, 0x1F5F, 2, 0x1F51), (0x1F68, 0x1F6F, 1, 0x1F60), (0x2074, 0x2079, 1, 0x0034),
   (0x2080, 0x2089, 1, 0x0030), (0x2096, 0x2099, 1, 0x006B), (0x2119, 0x211B, 1, 0x0070),
   (0x2135, 0x2138, 1, 0x05D0), (0x2460, 0x2468, 1, 0x0031), (0x24B6, 0x24CF, 1, 0x0061),
   (0x24D0, 0x24E9, 1, 0x0061), (0x2C00, 0x2C2F, 1, 0x2C30), (0x2C67, 0x2C6B, 2, 0x2C68),
   (0x2C80, 0x2CE2, 2, 0x2C81), (0x3137, 0x3139, 1, 0x1103), (0x313A, 0x313F, 1, 0x11B0),
   (0x3141, 0x3143, 1, 0x1106), (0x3145, 0x314E, 1, 0x1109), (0x314F, 0x3163, 1, 0x1161),
   (0x3178, 0x317C, 1, 0x112B), (0x3184, 0x3186, 1, 0x1157), (0x3263, 0x3265, 1, 0x1105),
   (0x3269, 0x326D, 1, 0x110E), (0x32E4, 0x32E9, 1, 0x30CA), (0x32EE, 0x32F2, 1, 0x30DE),
   (0x32F5, 0x32FA, 1, 0x30E8), (0x32FB, 0x32FE, 1, 0x30EF), (0xA640, 0xA66C, 2, 0xA641),
   (0xA680, 0xA69A, 2, 0xA681), (0xA722, 0xA72E, 2, 0xA723), (0xA732, 0xA76E, 2, 0xA733),
   (0xA77E, 0xA786, 2, 0xA77F), (0xA796, 0xA7A8, 2, 0xA797), (0xA7B4, 0xA7C2, 2, 0xA7B5),
   (0xA7CC, 0xA7DA, 2, 0xA7CD), (0xAB70, 0xABBF, 1, 0x13A0), (0xFB24, 0xFB26, 1, 0x05DB),
   (0xFE41, 0xFE44, 1, 0x300C), (0xFF01, 0xFF20, 1, 0x0021), (0xFF21, 0xFF3A, 1, 0x0061),
   (0xFF3B, 0xFF5E, 1, 0x005B), (0xFF85, 0xFF8A, 1, 0x30CA), (0xFF8F, 0xFF93, 1, 0x30DE),
   (0xFF96, 0xFF9B, 1, 0x30E8), (0xFFA7, 0xFFA9, 1, 0x1103), (0xFFAA, 0xFFAF, 1, 0x11B0),
   (0xFFB1, 0xFFB3, 1, 0x1106), (0xFFB5, 0xFFBE, 1, 0x1109), (0xFFC2, 0xFFC7, 1, 0x1161),
   (0xFFCA, 0xFFCF, 1, 0x1167), (0xFFD2, 0xFFD7, 1, 0x116D), (0xFFDA, 0xFFDC, 1, 0x1173),
   (0xFFE9, 0xFFEC, 1, 0x2190), (0x10400, 0x10427, 1, 0x10428), (0x104B0, 0x104D3, 1, 0x104D8),
   (0x10570, 0x10594, 2, 0x10597), (0x10571, 0x10579, 2, 0x10598), (0x1057D, 0x10589, 2, 0x105A4),
   (0x1058D, 0x10591, 2, 0x105B4), (0x107B6, 0x107B8, 1, 0x01C0), (0x10C80, 0x10CB2, 1, 0x10CC0),
   (0x10D50, 0x10D65, 1, 0x10D70), (0x118A0, 0x118BF, 1, 0x118C0), (0x16E40, 0x16E5F, 1, 0x16E60),
   (0x16EA0, 0x16EB8, 1, 0x16EBB), (0x1CCD6, 0x1CCEF, 1, 0x0061), (0x1CCF0, 0x1CCF9, 1, 0x0030),
   (0x1D400, 0x1D419, 1, 0x0061), (0x1D41A, 0x1D433, 1, 0x0061), (0x1D434, 0x1D44D, 1, 0x0061),
   (0x1D44E, 0x1D466, 2, 0x0061), (0x1D44F, 0x1D453, 2, 0x0062), (0x1D457, 0x1D467, 2, 0x006A),
   (0x1D468, 0x1D481, 1, 0x0061), (0x1D482, 0x1D49B, 1, 0x0061), (0x1D4A9, 0x1D4AC, 1, 0x006E),
   (0x1D4AE, 0x1D4B5, 1, 0x0073), (0x1D4B6, 0x1D4B9, 1, 0x0061), (0x1D4BB, 0x1D4CF, 2, 0x0066),
   (0x1D4BE, 0x1D4C2, 2, 0x0069), (0x1D4C6, 0x1D4CE, 2, 0x0071), (0x1D4D0, 0x1D4E9, 1, 0x0061),
   (0x1D4EA, 0x1D503, 1, 0x0061), (0x1D505, 0x1D509, 2, 0x0062), (0x1D50D, 0x1D514, 1, 0x006A),
   (0x1D516, 0x1D51C, 1, 0x0073), (0x1D51E, 0x1D537, 1, 0x0061), (0x1D539, 0x1D53D, 2, 0x0062),
   (0x1D53C, 0x1D546, 2, 0x0065), (0x1D54A, 0x1D550, 1, 0x0073), (0x1D552, 0x1D56B, 1, 0x0061),
   (0x1D56C, 0x1D585, 1, 0x0061), (0x1D586, 0x1D59F, 1, 0x0061), (0x1D5A0, 0x1D5B9, 1, 0x0061),
   (0x1D5BA, 0x1D5D3, 1, 0x0061), (0x1D5D4, 0x1D5ED, 1, 0x0061), (0x1D5EE, 0x1D607, 1, 0x0061),
   (0x1D608, 0x1D621, 1, 0x0061), (0x1D622, 0x1D63B, 1, 0x0061), (0x1D63C, 0x1D655, 1, 0x0061),
   (0x1D656, 0x1D66F, 1, 0x0061), (0x1D670, 0x1D689, 1, 0x0061), (0x1D68A, 0x1D6A3, 1, 0x0061),
   (0x1D6A8, 0x1D6B8, 1, 0x03B1), (0x1D6BA, 0x1D6C0, 1, 0x03C3), (0x1D6C2, 0x1D6D2, 1, 0x03B1),
   (0x1D6D4, 0x1D6DA, 1, 0x03C3), (0x1D6E2, 0x1D6F2, 1, 0x03B1), (0x1D6F4, 0x1D6FA, 1, 0x03C3),
   (0x1D6FC, 0x1D70C, 1, 0x03B1), (0x1D70E, 0x1D714, 1, 0x03C3), (0x1D71C, 0x1D72C, 1, 0x03B1),
   (0x1D72E, 0x1D734, 1, 0x03C3), (0x1D736, 0x1D746, 1, 0x03B1), (0x1D748, 0x1D74E, 1, 0x03C3),
   (0x1D756, 0x1D766, 1, 0x03B1), (0x1D768, 0x1D76E, 1, 0x03C3), (0x1D770, 0x1D780, 1, 0x03B1),
   (0x1D782, 0x1D788, 1, 0x03C3), (0x1D790, 0x1D7A0, 1, 0x03B1), (0x1D7A2, 0x1D7A8, 1, 0x03C3),
   (0x1D7AA, 0x1D7BA, 1, 0x03B1), (0x1D7BC, 0x1D7C2, 1, 0x03C3), (0x1D7CE, 0x1D7D7, 1, 0x0030),
   (0x1D7D8, 0x1D7E1, 1, 0x0030), (0x1D7E2, 0x1D7EB, 1, 0x0030), (0x1D7EC, 0x1D7F5, 1, 0x0030),
   (0x1D7F6, 0x1D7FF, 1, 0x0030), (0x1E030, 0x1E038, 1, 0x0430), (0x1E039, 0x1E03B, 1, 0x043A),
   (0x1E03C, 0x1E046, 1, 0x043E), (0x1E051, 0x1E059, 1, 0x0430), (0x1E05F, 0x1E064, 1, 0x0443),
   (0x1E900, 0x1E921, 1, 0x1E922), (0x1EE0A, 0x1EE0D, 1, 0x0643), (0x1EE2A, 0x1EE2D, 1, 0x0643),
   (0x1EE8B, 0x1EE8D, 1, 0x0644), (0x1EEAB, 0x1EEAD, 1, 0x0644), (0x1F130, 0x1F149, 1, 0x0061),
   (0x1FBF0, 0x1FBF9, 1, 0x0030)]

/-- Characters that are left out. -/
def ignoredRanges : Text.Ranges :=
  [(0x00AD, 0x00AD), (0x034F, 0x034F), (0x115F, 0x1160), (0x17B4, 0x17B5), (0x180B, 0x180F),
   (0x200B, 0x200B), (0x2060, 0x2064), (0x206A, 0x206F), (0x3164, 0x3164), (0xFE00, 0xFE0F),
   (0xFEFF, 0xFEFF), (0xFFA0, 0xFFA0), (0x1BCA0, 0x1BCA3), (0x1D173, 0x1D17A), (0xE0100, 0xE01EF)]

/-- What replaces a character in one of the runs. -/
def shifted? (c : Char) : Option Char := do
  let n := c.toNat
  let (first, _, _, target) ← shiftedRuns.find? fun (first, last, step, _) =>
    first ≤ n && n ≤ last && (n - first) % step == 0
  return Char.ofNat (target + (n - first))

/-- What becomes of a character; nothing, if no name may hold it. -/
def mapChar? (c : Char) : Option (List Char) :=
  if c.toNat < 0x80 then some [c.toLower]
  else if Text.inRanges ignoredRanges c.toNat then some []
  else match shifted? c with
    | some d => some [d]
    | none =>
      match plainForm? c with
      | some form => some form
      | none => if isRefused c then none else some [c]

/-- The spelling of a domain name; nothing, if it holds a character that no name may hold. -/
def spell? (name : List Char) : Option (List Char) := do
  let mapped ← name.mapM mapChar?
  return Text.normalForm mapped.flatten

end TweetHarvest.Domain
