import TweetHarvest.Text.Blank
import TweetHarvest.Text.Utf8

/-!
# Paths

A path is a row of octets whose segments are divided by slashes.  Empty segments and single dots mean
nothing, except that a slash in front makes the path absolute and a dot in front of a relative path
is kept; what remains are its components.  Operations work on the octets, so that a path keeps the
form in which it was given.

The octets need not be those of a text.  What is shown of a path is a text all the same, with the
replacement character where the octets are none, and so the path cannot always be told from what is
shown of it.

* `Path.ofText`, `Path.text`  the path that a text is, and what is shown of a path
* `Path.components`   the meaning of a path
* `Path.join`         a path taken relative to another
* `Path.fileName?`    the last component, if it is a name
* `Path.within?`      what is left of a path after the components of another
-/

namespace TweetHarvest

/-- A path as it is written, octet by octet. -/
structure Path where
  octets : List UInt8
deriving DecidableEq, Repr

/-- What a segment of a path means. -/
inductive Component where
  | root
  | current
  | parent
  | normal (name : List UInt8)
deriving DecidableEq, Repr

namespace Path

/-- The octet of the slash. -/
@[simp] abbrev slash : UInt8 := 0x2F

/-- The octet of the dot. -/
@[simp] abbrev dot : UInt8 := 0x2E

/-- The octet that ends a path for the system, so that no path may have it inside. -/
@[simp] abbrev null : UInt8 := 0

/-- The path that a text is. -/
def ofText (s : String) : Path := ⟨Utf8.octets s⟩

/-- What is shown of a path. -/
def text (p : Path) : String := Utf8.shown p.octets

/-- The pieces between the slashes. -/
def segments (s : List UInt8) : List (List UInt8) := Text.splitOn slash s

/-- Whether a segment stands for nothing inside a path. -/
def isIdle (segment : List UInt8) : Bool := segment = [] || segment = [dot]

/-- The meaning of a segment inside a path. -/
def component? (segment : List UInt8) : Option Component :=
  if isIdle segment then none
  else if segment = [dot, dot] then some .parent
  else some (.normal segment)

/-- A path split into the component in front, which is there for an absolute path or a dot, and
the octets of the segments after it. -/
def splitFront (s : List UInt8) : Option Component × List UInt8 :=
  match s with
  | 0x2F :: rest => (some .root, rest)
  | [0x2E] => (some .current, [])
  -- The slash stays with the body, where it makes an empty segment
  | 0x2E :: 0x2F :: rest => (some .current, slash :: rest)
  | rest => (none, rest)

/-- The components of the octets of a path. -/
def componentsOf (s : List UInt8) : List Component :=
  let (front, body) := splitFront s
  front.toList ++ (segments body).filterMap component?

/-- The components of a path. -/
def components (p : Path) : List Component := componentsOf p.octets

/-- Whether a path starts at the root. -/
def isAbsolute (p : Path) : Bool := p.octets.head? = some slash

/-- `other` taken relative to `p`: an absolute path replaces `p`, any other is put behind a
slash. -/
def join (p other : Path) : Path :=
  if other.isAbsolute then other
  else if p.octets = [] || p.octets.getLast? = some slash then ⟨p.octets ++ other.octets⟩
  else ⟨p.octets ++ slash :: other.octets⟩

/-- The name at the end of a path, if its last component is one. -/
def fileName? (p : Path) : Option (List UInt8) :=
  match p.components.getLast? with
  | some (.normal name) => some name
  | _ => none

/-- Drops the segments at the end that stand for nothing. -/
def dropIdleEnd (segments : List (List UInt8)) : List (List UInt8) :=
  (segments.reverse.dropWhile isIdle).reverse

/-- The octets of the front of a path. -/
def frontOctets : Option Component → List UInt8
  | some .root => [slash]
  | some .current => [dot]
  | _ => []

/-- The octets without the segments at their end that stand for nothing. -/
def trimEnd (s : List UInt8) : List UInt8 :=
  let (front, body) := splitFront s
  frontOctets front ++ Text.joinWith slash (dropIdleEnd (segments body))

/-- The path without its last component, unless there is none or it is the root. -/
def parent? (p : Path) : Option Path :=
  let (front, body) := splitFront p.octets
  match (dropIdleEnd (segments body)).reverse with
  | _ :: before =>
    some ⟨frontOctets front ++ Text.joinWith slash (dropIdleEnd before.reverse)⟩
  -- A dot alone is a component, with nothing in front of it
  | [] => if front = some .current then some ⟨[]⟩ else none

/-- The path with another name at its end; a path that does not end in a name is extended. -/
def withFileName (p : Path) (name : List UInt8) : Path :=
  match p.fileName? with
  | some _ => (p.parent?.getD p).join ⟨name⟩
  | none => p.join ⟨name⟩

/-- Takes the given components off the front of the segments of a path. -/
def dropComponents : List Component → List (List UInt8) → Option (List (List UInt8))
  | [], segments => some segments
  | _ :: _, [] => none
  | c :: cs, segment :: rest =>
    match component? segment with
    -- Segments that stand for nothing are passed over
    | none => dropComponents (c :: cs) rest
    | some found => if found = c then dropComponents cs rest else none

/-- The segments after the components of `base`, without those at either end that stand for
nothing; `none` unless the components of `p` start with those of `base`.  Where `base` has no
components, the front of `p` stays as it is. -/
def within? (p base : Path) : Option Path :=
  match base.components with
  | [] => some ⟨trimEnd p.octets⟩
  | cs =>
    let (front, body) := splitFront p.octets
    -- The front is compared first, if both paths have one
    let rest := match front, cs with
      | some c, d :: ds => if c = d then dropComponents ds (segments body) else none
      | _, cs => dropComponents cs (segments body)
    rest.map fun left => ⟨Text.joinWith slash (dropIdleEnd (left.dropWhile isIdle))⟩

end Path

end TweetHarvest
