import TweetHarvest.Text.Utf8
import TweetHarvest.Url.Basic
import TweetHarvest.Url.Host.Domain

/-!
# Reading URLs

An absolute URL is read from its scheme to its fragment.  Blanks and controls at both ends and tabs
and line breaks anywhere are passed over.  Special schemes take any number of slashes, and
backslashes, before the host and always have a path.

* `UrlFault`    why a text is no URL
* `Url.read`    the URL in normal form
-/

namespace TweetHarvest

/-- Why a text is not an absolute URL. -/
inductive UrlFault where
  | emptyHost
  | invalidDomain
  | invalidPort
  | invalidIpv4
  | invalidIpv6
  | invalidHostCharacter
  | noScheme
deriving DecidableEq, Repr

/-- The wording of a fault. -/
def UrlFault.message : UrlFault → String
  | .emptyHost => "empty host"
  | .invalidDomain => "invalid international domain name"
  | .invalidPort => "invalid port number"
  | .invalidIpv4 => "invalid IPv4 address"
  | .invalidIpv6 => "invalid IPv6 address"
  | .invalidHostCharacter => "invalid domain character"
  | .noScheme => "relative URL without a base"

namespace Url

/-- Whether a character is a blank or a control of ASCII. -/
def isC0OrSpace (c : Char) : Bool := c.toNat ≤ 0x20

/-- The text without what is passed over. -/
def clean (s : List Char) : List Char :=
  (Text.dropEndWhile isC0OrSpace (s.dropWhile isC0OrSpace)).filter (!isPassedOver ·)

/-- Whether a character may follow the first letter of a scheme. -/
def isSchemeChar (c : Char) : Bool := c.isAlphanum || c = '+' || c = '-' || c = '.'

/-- The scheme in small letters, and what follows its colon. -/
def readScheme? (s : List Char) : Option (List Char × List Char) :=
  if s.head?.any Char.isAlpha then
    match s.span isSchemeChar with
    -- Without a colon it was no scheme
    | (scheme, ':' :: rest) => some (scheme.map Char.toLower, rest)
    | _ => none
  else none

/-- Whether a character divides the segments of a path. -/
def isSlash (special : Bool) (c : Char) : Bool := c = '/' || (special && c = '\\')

/-- Whether a character ends the authority. -/
def endsAuthority (special : Bool) (c : Char) : Bool :=
  isSlash special c || c = '?' || c = '#'

/-! ### Authorities -/

/-- Splits at the last at sign. -/
def splitLastAt (s : List Char) : Option (List Char × List Char) :=
  if s.contains '@' then
    let after := (s.reverse.takeWhile (· ≠ '@')).reverse
    some (s.take (s.length - after.length - 1), after)
  else none

/-- User name and password: the first colon divides them, an empty password counts as none. -/
def userInfoOf (s : List Char) : UserInfo :=
  let (name, rest) := s.span (· ≠ ':')
  let coded := Percent.encode Percent.inUserInfo
  match rest with
  | _ :: c :: password => ⟨coded name, some (coded (c :: password))⟩
  | _ => ⟨coded name, none⟩

/-- Reads user name and password, if an at sign comes before the end of the authority. -/
def readUserInfo (special : Bool) (s : List Char) : Except UrlFault (UserInfo × List Char) :=
  match splitLastAt (s.takeWhile (!endsAuthority special ·)) with
  | none => .ok (⟨[], none⟩, s)
  | some (info, _) =>
    -- The at sign belongs to neither side
    let rest := s.drop (info.length + 1)
    if info.isEmpty && rest.head?.any (endsAuthority special) then .error .emptyHost
    else .ok (userInfoOf info, rest)

/-- The host of a URL with a special scheme. -/
def readHost (s : List Char) : Except UrlFault Host :=
  match s with
  | '[' :: rest =>
    if rest.getLast? = some ']' then
      match Ipv6.read? rest.dropLast with
      | some groups => .ok (.ipv6 groups)
      | none => .error .invalidIpv6
    else .error .invalidIpv6
  | _ =>
    -- Percent signs are decoded first, and what is no UTF-8 is replaced
    match Domain.toAscii? (Utf8.lossy (Percent.decode s)) with
    | none => .error .invalidDomain
    | some [] => .error .emptyHost
    | some name =>
      -- A name whose last label is a number has to be an address
      if Ipv4.endsInNumber name then
        match Ipv4.read? name with
        | some address => .ok (.ipv4 address)
        | none => .error .invalidIpv4
      else .ok (.domain name)

/-- The characters that no host of another scheme may hold. -/
def isForbiddenInHost (c : Char) : Bool :=
  "\x00\t\n\r #/:<>?@[\\]^|".toList.contains c

/-- The host of a URL with any other scheme. -/
def readOtherHost (s : List Char) : Except UrlFault Host :=
  match s with
  | [] => .ok .empty
  | '[' :: rest =>
    if rest.getLast? = some ']' then
      match Ipv6.read? rest.dropLast with
      | some groups => .ok (.ipv6 groups)
      | none => .error .invalidIpv6
    else .error .invalidIpv6
  | _ =>
    if s.any isForbiddenInHost then .error .invalidHostCharacter
    else .ok (.domain (Percent.encode Percent.isControl s))

/-- Splits the host off an authority: it ends at a colon outside of brackets. -/
def spanHost (special : Bool) (bracketed : Bool) : List Char → List Char × List Char
  | [] => ([], [])
  | c :: rest =>
    if (c = ':' && !bracketed) || endsAuthority special c then ([], c :: rest)
    else
      -- Between brackets, colons belong to an address
      let (host, after) := spanHost special (c = '[' || (bracketed && c ≠ ']')) rest
      (c :: host, after)

/-- Reads the port after its colon: digits up to 65535, then the end of the authority. -/
def readPort (kind : SchemeKind) (s : List Char) : Except UrlFault (Option Nat × List Char) :=
  let (ds, rest) := s.span Char.isDigit
  let port := Decimal.value ds
  if 65535 < port then .error .invalidPort
  else if rest.head?.any (!endsAuthority true ·) then .error .invalidPort
  -- The usual port of the scheme is not kept
  else if ds.isEmpty || kind = .special port then .ok (none, rest)
  else .ok (some port, rest)

/-- Reads an authority; under a special scheme its host may not be empty, and nowhere may a port or
a user stand before an empty host. -/
def readAuthority (kind : SchemeKind) (s : List Char) :
    Except UrlFault (Authority × List Char) := do
  let special := kind.isSpecial
  let (user, s) ← readUserInfo special s
  let (name, s) := spanHost special false s
  if special && name.isEmpty then .error .emptyHost
  let host ← if special then readHost name else readOtherHost name
  if host = .empty && s.head? = some ':' then .error .emptyHost
  let (port, s) ← match s with
    | ':' :: rest => readPort kind rest
    | _ => pure (none, s)
  if host = .empty && !user.text.isEmpty then .error .emptyHost
  return (⟨user, host, port⟩, s)

/-! ### Paths, queries and fragments -/

/-- The segments between the slashes of a path. -/
def splitSegments (special : Bool) (s : List Char) : List (List Char) :=
  Text.splitOn '/' (s.map fun c => if isSlash special c then '/' else c)

/-- Goes through the segments of a path in order; `before` are those in front of them, after dots
have led up. -/
def resolveSegments (kind : SchemeKind) (before : List (List Char)) :
    List (List Char) → List (List Char)
  | [] => before
  -- Dots at the end leave an empty segment behind
  | [last] => closePath kind before last
  | segment :: rest =>
    if isDoubleDot segment then resolveSegments kind (popSegment before) rest
    else if isDot segment then resolveSegments kind before rest
    else resolveSegments kind (before ++ [normalizeDrive kind before segment]) rest

/-- The segments of the text of a path, dots resolved; a slash in front starts the first one. -/
def resolvedSegments (kind : SchemeKind) (s : List Char) : List (List Char) :=
  -- The first slash divides nothing
  let body := match s with
    | c :: rest => if isSlash kind.isSpecial c then rest else s
    | [] => []
  let coded := (splitSegments kind.isSpecial body).map (Percent.encode Percent.inPath)
  resolveSegments kind [] coded

/-- The segments of the text of a path. -/
def readSegments (kind : SchemeKind) (s : List Char) : List (List Char) :=
  trimFilePath kind (resolvedSegments kind s)

/-- Splits a text at the query and the fragment, and encodes these. -/
def spanPath (special : Bool) (s : List Char) :
    List Char × Option (List Char) × Option (List Char) :=
  -- Question marks behind the hash sign belong to the fragment
  let (front, fragment) := s.span (· ≠ '#')
  let (path, query) := front.span (· ≠ '?')
  (path,
    query.tail?.map (Percent.encode (Percent.inQuery special)),
    fragment.tail?.map (Percent.encode Percent.inFragment))

/-- Reads what follows the slashes of a URL with a host. -/
def readWithAuthority (scheme : List Char) (s : List Char) : Except UrlFault Url := do
  let kind := schemeKind scheme
  let (authority, s) ← readAuthority kind s
  let (path, query, fragment) := spanPath kind.isSpecial s
  -- A special URL has a path of one slash at least
  let segments :=
    if path.isEmpty && !kind.isSpecial then [] else readSegments kind path
  return ⟨scheme, some authority, .segments segments, query, fragment⟩

/-- An authority that names nothing but a host. -/
def Authority.ofHost (host : Host) : Authority := ⟨⟨[], none⟩, host, none⟩

/-- Reads what follows the colon of a `file` URL.  The local host is not shown, and a drive letter
at the start of the path takes the place of a host. -/
def readFile (scheme : List Char) (s : List Char) : Except UrlFault Url := do
  let (host, s) ← match s with
    | a :: b :: rest =>
      if isSlash true a && isSlash true b then
        let name := rest.takeWhile (!endsAuthority true ·)
        -- A drive letter is no host, but the first segment
        if name.isEmpty || isDriveLetter name then pure (.empty, rest)
        else
          let host ← readHost name
          let shown := if host = .domain "localhost".toList then .empty else host
          pure (shown, rest.drop name.length)
      else pure (.empty, s)
    | _ => pure (.empty, s)
  let (path, query, fragment) := spanPath true s
  let segments := resolvedSegments .file path
  let driven := segments.head?.any isDriveLetter
  let authority := Authority.ofHost (if driven then .empty else host)
  return ⟨scheme, some authority, .segments (trimFilePath .file segments), query, fragment⟩

/-- Reads what follows the colon of a URL with a scheme that is not special. -/
def readOther (scheme : List Char) (s : List Char) : Except UrlFault Url :=
  match s with
  | '/' :: '/' :: rest => readWithAuthority scheme rest
  | '/' :: _ =>
    let (path, query, fragment) := spanPath false s
    .ok ⟨scheme, none, .segments (readSegments .other path), query, fragment⟩
  | _ =>
    let (path, query, fragment) := spanPath false s
    .ok ⟨scheme, none, .undivided (Percent.encode Percent.isControl path), query, fragment⟩

/-- Reads an absolute URL. -/
def read (text : String) : Except UrlFault Url :=
  match readScheme? (clean text.toList) with
  | none => .error .noScheme
  | some (scheme, rest) =>
    match schemeKind scheme with
    | .file => readFile scheme rest
    -- Any number of slashes and backslashes may follow the colon
    | .special _ => readWithAuthority scheme (rest.dropWhile (isSlash true))
    | .other => readOther scheme rest

end Url

end TweetHarvest
