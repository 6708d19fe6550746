import TweetHarvest.Files.Path

/-!
# File names made from any text

Characters that some file system gives a meaning to, and control characters, are left out; a name
of nothing but dots becomes empty; and the name is cut to the 255 octets that one name may have, at
the end of a character.

* `FileName.sanitize`  the cleaned name
* `FileName.place`     the path of the cleaned name in a directory
-/

namespace TweetHarvest.FileName

/-- The greatest number of octets of a name. -/
def maxOctets : Nat := 255

/-- Whether a character may stand in a file name. -/
def isAllowed (c : Char) : Bool :=
  let n := c.toNat
  !("/?<>\\:*|\"".toList.contains c || n < 0x20 || (0x80 ≤ n && n ≤ 0x9F))

/-- The characters that fit into `room` octets. -/
def cut (room : Nat) : List Char → List Char
  | [] => []
  | c :: cs => if c.utf8Size ≤ room then c :: cut (room - c.utf8Size) cs else []

/-- The cleaned name. -/
def sanitizeChars (s : List Char) : List Char :=
  let kept := s.filter isAllowed
  if kept.all (· = '.') then [] else cut maxOctets kept

/-- The cleaned name. -/
def sanitize (name : String) : String :=
  String.ofList (sanitizeChars name.toList)

/-- The path of the cleaned name in a directory. -/
def place (dir : Path) (name : String) : Path :=
  dir.join (.ofText (sanitize name))

end TweetHarvest.FileName
