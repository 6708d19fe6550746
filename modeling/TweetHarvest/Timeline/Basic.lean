import TweetHarvest.Timeline.Record

/-!
# Timelines

What a dataset says about an account: its profile, its tweets in the order of the dataset, and how
many items were neither.  Timelines of two datasets can be put one after the other.

* `Timeline.ofItems`    the timeline of the items of a dataset
* `Timeline.append`     one timeline after the other; the later profile wins
-/

namespace TweetHarvest

open Json (Value)

/-- The records of a dataset. -/
structure Timeline where
  /-- The last profile, if any. -/
  profile : Option Profile
  /-- The tweets in the order of the dataset. -/
  tweets : List Tweet
  /-- How many items were no record. -/
  dropped : Nat
deriving DecidableEq, Repr

namespace Timeline

/-- The timeline of no items. -/
def empty : Timeline := ⟨none, [], 0⟩

/-- One timeline after the other. -/
def append (a b : Timeline) : Timeline where
  profile := b.profile.or a.profile
  tweets := a.tweets ++ b.tweets
  dropped := a.dropped + b.dropped

instance : Append Timeline := ⟨append⟩

/-- The timeline of a single item. -/
def ofRecord : Option Record → Timeline
  | some (.profile p) => ⟨some p, [], 0⟩
  | some (.tweet t) => ⟨none, [t], 0⟩
  | none => ⟨none, [], 1⟩

/-- The timeline of the items of a dataset. -/
def ofItems (items : List Value) (username : String) : Timeline :=
  match items with
  | [] => empty
  | item :: rest => ofRecord (Record.ofValue? item username) ++ ofItems rest username

end Timeline

end TweetHarvest
