import TweetHarvest.Url.Host.Ipv4
import TweetHarvest.Url.Host.Ipv6
import TweetHarvest.Url.Percent

/-!
# URLs

A URL in normal form: all parts are already encoded.  A hierarchical path is a list of segments;
the list is empty where nothing follows the host, and its last segment is empty where the path ends
in a slash.

* `Url.text`          the written form
* `Url.extend`        the URL with more segments at the end of its path
* `Url.firstSegment?` the first segment of a hierarchical path
-/

namespace TweetHarvest

/-- The host of a URL. -/
inductive Host where
  | empty
  | domain (name : List Char)
  | ipv4 (address : Nat)
  | ipv6 (groups : List Nat)
deriving DecidableEq, Repr

/-- The written form of a host. -/
def Host.text : Host → List Char
  | .empty => []
  | .domain name => name
  | .ipv4 address => Ipv4.text address
  | .ipv6 groups => '[' :: Ipv6.text groups ++ [']']

/-- User name and password. -/
structure UserInfo where
  name : List Char
  password : Option (List Char)
deriving DecidableEq, Repr

/-- The written form of user name and password, with the sign that ends it. -/
def UserInfo.text (u : UserInfo) : List Char :=
  match u.name, u.password with
  | [], none => []
  | name, none => name ++ ['@']
  | name, some password => name ++ ':' :: password ++ ['@']

/-- Where the resources of a URL are served. -/
structure Authority where
  user : UserInfo
  host : Host
  /-- The port, unless it is the one that the scheme implies. -/
  port : Option Nat
deriving DecidableEq, Repr

/-- The written form of an authority. -/
def Authority.text (a : Authority) : List Char :=
  a.user.text ++ a.host.text ++ match a.port with
    | none => []
    | some port => ':' :: Decimal.digits port

/-- What follows the authority. -/
inductive UrlPath where
  /-- A path that is not divided, as in `mailto:`. -/
  | undivided (text : List Char)
  /-- Segments, each behind a slash. -/
  | segments (segments : List (List Char))
deriving DecidableEq, Repr

/-- A URL in normal form. -/
structure Url where
  scheme : List Char
  authority : Option Authority
  path : UrlPath
  query : Option (List Char)
  fragment : Option (List Char)
deriving DecidableEq, Repr

namespace Url

/-- How a scheme is treated. -/
inductive SchemeKind where
  /-- Paths of files. -/
  | file
  /-- A scheme that needs a host and takes backslashes for slashes; its usual port. -/
  | special (port : Nat)
  | other
deriving DecidableEq, Repr

/-- The kind of a scheme. -/
def schemeKind (scheme : List Char) : SchemeKind :=
  match String.ofList scheme with
  | "file" => .file
  | "http" | "ws" => .special 80
  | "https" | "wss" => .special 443
  | "ftp" => .special 21
  | _ => .other

/-- Whether backslashes count as slashes. -/
def SchemeKind.isSpecial (kind : SchemeKind) : Bool := kind ≠ .other

/-- The kind of the scheme of a URL. -/
def kind (u : Url) : SchemeKind := schemeKind u.scheme

/-- Whether the path is divided into segments. -/
def isHierarchical (u : Url) : Bool :=
  match u.path with
  | .segments _ => true
  | .undivided _ => false

/-- The written form of segments. -/
def segmentsText (segments : List (List Char)) : List Char :=
  segments.flatMap ('/' :: ·)

/-- The written form of a path.  Without an authority, two slashes in front would start one, and a
dot is put in between. -/
def pathText (hasAuthority : Bool) : UrlPath → List Char
  | .undivided text => text
  | .segments segments =>
    -- An empty segment in front makes two slashes
    let guarded := !hasAuthority && match segments with
      | [] :: _ :: _ => true
      | _ => false
    if guarded then '/' :: '.' :: segmentsText segments else segmentsText segments

/-- The written form. -/
def chars (u : Url) : List Char :=
  u.scheme ++ ':' ::
    (match u.authority with
      | none => []
      | some a => '/' :: '/' :: a.text) ++
    pathText u.authority.isSome u.path ++
    (match u.query with
      | none => []
      | some q => '?' :: q) ++
    match u.fragment with
      | none => []
      | some f => '#' :: f

/-- The written form. -/
def text (u : Url) : String := String.ofList u.chars

/-- The path and the query, as they are sent in a request. -/
def target (u : Url) : String :=
  String.ofList <| pathText true u.path ++ match u.query with
    | none => []
    | some q => '?' :: q

/-- The host as written. -/
def hostText? (u : Url) : Option (List Char) :=
  match u.authority with
  | none => none
  -- An empty host is as good as none
  | some a => if a.host = .empty then none else some a.host.text

/-- The first segment of a hierarchical path. -/
def firstSegment? (u : Url) : Option (List Char) :=
  match u.path with
  | .segments (segment :: _) => some segment
  | _ => none

/-! ### Dots and drive letters in paths -/

/-- A dot as it may be written in a segment. -/
def isDot (s : List Char) : Bool :=
  s = ['.'] || s = ['%', '2', 'e'] || s = ['%', '2', 'E']

/-- Whether a segment leads to the segment above. -/
def isDoubleDot (s : List Char) : Bool :=
  -- Either dot may be coded, in capital letters or small ones
  ((s.head? = some '.') && isDot s.tail) || (isDot (s.take 3) && s.length > 3 && isDot (s.drop 3))

/-- Whether a segment is a drive letter, followed by a colon or a bar. -/
def isDriveLetter (s : List Char) : Bool :=
  match s with
  | [c, d] => c.isAlpha && (d = ':' || d = '|')
  | _ => false

/-- Whether a segment starts with a drive letter that a slash or its like ends. -/
def startsWithDriveLetter (s : List Char) : Bool :=
  isDriveLetter (s.take 2) && match s.drop 2 with
    | [] => true
    | c :: _ => c = '/' || c = '\\' || c = '?' || c = '#'

/-- The segments without the last one; a drive letter stays. -/
def popSegment (segments : List (List Char)) : List (List Char) :=
  match segments.getLast? with
  | none => []
  | some last => if startsWithDriveLetter last then segments else segments.dropLast

/-- A segment in front of a file path, with the bar of a drive letter turned into a colon. -/
def normalizeDrive (kind : SchemeKind) (before : List (List Char)) (segment : List Char) :
    List Char :=
  if kind = .file && before.isEmpty && isDriveLetter segment then segment.take 1 ++ [':']
  else segment

/-- Puts a last segment behind others; dots lead up or nowhere, and leave the place empty. -/
def closePath (kind : SchemeKind) (before : List (List Char)) (segment : List Char) :
    List (List Char) :=
  if isDoubleDot segment then popSegment before ++ [[]]
  else if isDot segment then before ++ [[]]
  else before ++ [normalizeDrive kind before segment]

/-- File paths have no empty segments in front. -/
def trimFilePath (kind : SchemeKind) (segments : List (List Char)) : List (List Char) :=
  if kind = .file then
    match segments.dropWhile (· = []) with
    | [] => [[]]
    | rest => rest
  else segments

/-! ### Adding segments -/

/-- The segments without an empty one at the end. -/
def dropEmptyLast (segments : List (List Char)) : List (List Char) :=
  if segments.getLast? = some [] && 1 < segments.length then segments.dropLast else segments

/-- Whether a character is passed over wherever it stands in a URL. -/
def isPassedOver (c : Char) : Bool := c = '\t' || c = '\n' || c = '\r'

/-- Adds one segment at the end of a path, encoded so that it stays one segment.  A name of one or
two dots adds nothing. -/
def addSegment (kind : SchemeKind) (segments : List (List Char)) (name : List Char) :
    List (List Char) :=
  if name = ['.'] || name = ['.', '.'] then segments
  else
    -- A path of a single slash has no segment yet
    let before := if segments = [[]] then [] else segments
    let coded := Percent.encode (Percent.inSegment kind.isSpecial) (name.filter (!isPassedOver ·))
    trimFilePath kind (closePath kind before coded)

/-- The URL with more segments at the end of its path; an empty segment at its end is replaced.  The
dot that keeps apart two slashes without an authority stays when they are all of the path. -/
def extend (u : Url) (names : List String) : Url :=
  match u.path with
  | .undivided _ => u
  | .segments segments =>
    let start := dropEmptyLast segments
    let path := names.foldl (fun path name => addSegment u.kind path name.toList) start
    -- Otherwise the two slashes would be taken for an authority
    let dotted := u.authority.isNone && segments = [[], []]
    { u with path := .segments (if dotted then ['.'] :: path else path) }

end Url

end TweetHarvest
