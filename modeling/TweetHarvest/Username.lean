import TweetHarvest.Url.Reader

/-!
# Usernames

A handle has one to fifteen ASCII letters, digits and underscores.  It may be given as such, with
at signs in front, or as the address of a profile, whose first path segment it is.

* `Username.isHandle`  the form of a handle
* `Username.read`      the handle that a text gives
-/

namespace TweetHarvest.Username

/-- Why a text gives no handle. -/
inductive Fault where
  | empty
  /-- No handle; the text without the blanks around it. -/
  | invalid (input : String)
deriving DecidableEq, Repr

/-- The wording of a fault. -/
def Fault.message : Fault → String
  | .empty => "Username cannot be empty"
  | .invalid input => "Invalid Twitter username: " ++ input

/-- Whether a character may stand in a handle. -/
def isHandleChar (c : Char) : Bool := c.isAlphanum || c = '_'

/-- Whether a text is a handle. -/
def isHandle (s : List Char) : Bool := s.all isHandleChar && 1 ≤ s.length && s.length ≤ 15

/-- Whether a text occurs in another. -/
def occursIn (part : List Char) : List Char → Bool
  | [] => part.isEmpty
  | c :: rest => part.isPrefixOf (c :: rest) || occursIn part rest

/-- Whether a host counts as the site of the profiles: one of its two names occurs in it. -/
def isProfileHost (host : List Char) : Bool :=
  occursIn "twitter.com".toList host || occursIn "x.com".toList host

/-- The text that should be a handle. -/
def candidate (input : String) : List Char :=
  match Url.read input with
  | .ok url =>
    if url.hostText?.any isProfileHost then url.firstSegment?.getD []
    -- An address elsewhere is taken for a handle, which it cannot be
    else input.toList.dropWhile (· = '@')
  | .error _ => input.toList.dropWhile (· = '@')

/-- The handle that a text gives. -/
def read (text : String) : Except Fault String :=
  let input := Text.trim text
  if input = "" then .error .empty
  else
    let handle := candidate input
    if isHandle handle then .ok (String.ofList handle) else .error (.invalid input)

end TweetHarvest.Username
