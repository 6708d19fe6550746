import TweetHarvest.Text.Blank

/-!
# Environment variables

Names and values are texts.  Where the system has other octets for them, they are read with the
replacement character in the gaps.

* `Environment.ofEntries`  the variables of entries `NAME=value`
* `Environment.get?`       the value of a variable
* `Environment.first?`     the first of several variables that is not blank
* `Environment.underlay`   adds variables that are not set yet
-/

namespace TweetHarvest

/-- The variables that are set. -/
structure Environment where
  bindings : List (String × String)
deriving DecidableEq, Repr

namespace Environment

/-- The variables of entries `NAME=value`; an entry without the sign in between counts for
nothing. -/
def ofEntries (entries : List (List Char)) : Environment :=
  ⟨entries.filterMap fun entry =>
    match entry.dropWhile (· ≠ '=') with
    | [] => none
    | _ :: value => some (String.ofList (entry.takeWhile (· ≠ '=')), String.ofList value)⟩

/-- The value of a variable. -/
def get? (env : Environment) (name : String) : Option String :=
  (env.bindings.find? (·.1 == name)).map (·.2)

/-- The value of a variable, unless it is blank. -/
def nonBlank? (env : Environment) (name : String) : Option String :=
  (env.get? name).filter (!Text.isAllBlank ·)

/-- The value of the first of the variables that is not blank. -/
def first? (env : Environment) (names : List String) : Option String :=
  names.findSome? env.nonBlank?

/-- Adds a variable unless it is set. -/
def underlay (env : Environment) (name value : String) : Environment :=
  match env.get? name with
  | some _ => env
  | none => ⟨env.bindings ++ [(name, value)]⟩

end Environment

end TweetHarvest
