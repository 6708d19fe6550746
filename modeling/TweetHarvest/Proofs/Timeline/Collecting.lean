import TweetHarvest.Proofs.Timeline.Recognized

/-!
# Collecting a dataset

A timeline is collected in one pass over the items: a profile takes the place of the one before, a
tweet goes behind those before, and an item that is no record is counted.  To take in one more item
is to put its own timeline behind, so a dataset can be collected in pieces, every item ends up in
one part of the timeline, and items that are not recognizable change nothing but the count.

## Key results

- `foldl_take`: one pass over the items collects their timeline
- `ofItems_append`: a dataset collected in two pieces
- `tweets_ofItems`, `profile_ofItems`, `dropped_ofItems`: where the items end up
- `ofItems_interspersed`: items that are not recognizable, put in anywhere
- `ofItems_collects`: all of this together
-/

namespace TweetHarvest

open Json (Value)

namespace Record

/-- The tweet that a record is, if it is one. -/
def tweet? : Record → Option Tweet
  | .tweet t => some t
  | .profile _ => none

/-- The profile that a record is, if it is one. -/
def profile? : Record → Option Profile
  | .profile p => some p
  | .tweet _ => none

end Record

namespace Timeline

/-! ## One timeline after the other -/

section Append

variable (a b c : Timeline)

/-- The later profile counts. -/
@[simp] theorem profile_append : (a ++ b).profile = b.profile.or a.profile := rfl

/-- The later tweets come behind the earlier ones. -/
@[simp] theorem tweets_append : (a ++ b).tweets = a.tweets ++ b.tweets := rfl

/-- Items that are dropped are counted together. -/
@[simp] theorem dropped_append : (a ++ b).dropped = a.dropped + b.dropped := rfl

/-- What two timelines make together, field by field. -/
theorem append_eq : a ++ b = ⟨b.profile.or a.profile, a.tweets ++ b.tweets, a.dropped + b.dropped⟩ :=
  rfl

/-- It does not matter which timelines are put together first. -/
theorem append_assoc : a ++ b ++ c = a ++ (b ++ c) := by
  simp [append_eq, Option.or_assoc, Nat.add_assoc]

/-- Nothing comes of an empty timeline in front. -/
theorem empty_append : empty ++ a = a := by
  simp [append_eq, empty]

/-- Nothing comes of an empty timeline behind. -/
theorem append_empty : a ++ empty = a := by
  simp [append_eq, empty]

end Append

/-! ## One pass over the items -/

variable {username : String}

/-- Takes in what one more item stands for. -/
def take (t : Timeline) : Option Record → Timeline
  | some (.profile p) => { t with profile := some p }
  | some (.tweet tweet) => { t with tweets := t.tweets ++ [tweet] }
  | none => { t with dropped := t.dropped + 1 }

/-- To take in an item is to put its own timeline behind. -/
theorem take_eq_append (t : Timeline) (record : Option Record) :
    t.take record = t ++ ofRecord record := by
  rcases record with _ | _ | _ <;> simp [take, ofRecord, append_eq]

/-- One pass over the items puts their timeline behind what there was before. -/
theorem foldl_take (t : Timeline) (items : List Value) :
    items.foldl (fun t item => t.take (Record.ofValue? item username)) t =
      t ++ ofItems items username := by
  induction items generalizing t with
  | nil => exact (append_empty t).symm
  | cons item items ih =>
    -- The pass goes on from the timeline with the first item in it
    rw [List.foldl_cons, ih, take_eq_append, append_assoc]
    rfl

/-- A dataset can be collected in two pieces. -/
theorem ofItems_append (a b : List Value) :
    ofItems (a ++ b) username = ofItems a username ++ ofItems b username := by
  induction a with
  | nil => exact (empty_append _).symm
  | cons item a ih => rw [List.cons_append, ofItems, ih, ofItems, append_assoc]

/-! ## Where the items end up -/

/-- The tweets are those among the items, in the same order. -/
theorem tweets_ofItems (items : List Value) :
    (ofItems items username).tweets =
      items.filterMap fun item => (Record.ofValue? item username).bind Record.tweet? := by
  induction items with
  | nil => rfl
  | cons item items ih =>
    rw [ofItems, tweets_append, ih, List.filterMap_cons]
    rcases Record.ofValue? item username with _ | _ | _ <;> rfl

/-- The profile is the last one among the items. -/
theorem profile_ofItems (items : List Value) :
    (ofItems items username).profile =
      (items.filterMap fun item =>
        (Record.ofValue? item username).bind Record.profile?).getLast? := by
  induction items with
  | nil => rfl
  | cons item items ih =>
    rw [ofItems, profile_append, ih, List.filterMap_cons]
    rcases Record.ofValue? item username with _ | p | _
    · exact Option.or_none
    -- A profile in front is the last one only if there is none behind it
    · rw [Option.bind_some, Record.profile?, List.getLast?_cons]
      cases List.getLast? _ <;> rfl
    · exact Option.or_none

/-- The items that are no record are counted. -/
theorem dropped_ofItems (items : List Value) :
    (ofItems items username).dropped =
      items.countP fun item => (Record.ofValue? item username).isNone := by
  induction items with
  | nil => rfl
  | cons item items ih =>
    rw [ofItems, dropped_append, ih, List.countP_cons, Nat.add_comm]
    rcases Record.ofValue? item username with _ | _ | _ <;> rfl

/-- Every item is a tweet, a profile or dropped, and only one of them. -/
theorem length_eq_ofItems (items : List Value) :
    items.length = (ofItems items username).tweets.length + (ofItems items username).dropped +
      (items.filterMap fun item =>
        (Record.ofValue? item username).bind Record.profile?).length := by
  rw [tweets_ofItems, dropped_ofItems]
  induction items with
  | nil => rfl
  | cons item items ih =>
    rw [List.length_cons, ih, List.filterMap_cons, List.filterMap_cons, List.countP_cons]
    rcases Record.ofValue? item username with _ | _ | _ <;> simp [Record.tweet?, Record.profile?] <;>
      omega

/-! ## Items that are not recognizable -/

/-- In the second dataset so many items have been put in anywhere among those of the first one, and
none of them is recognizable. -/
inductive Interspersed : Nat → List Value → List Value → Prop
  | nil : Interspersed 0 [] []
  | keep {n : Nat} {items more : List Value} (item : Value) (h : Interspersed n items more) :
      Interspersed n (item :: items) (item :: more)
  | extra {n : Nat} {items more : List Value} {item : Value} (hitem : ¬ Recognizable item)
      (h : Interspersed n items more) : Interspersed (n + 1) items (item :: more)

/-- Items that are not recognizable change nothing but the count. -/
theorem ofItems_interspersed {n : Nat} {items more : List Value} (h : Interspersed n items more) :
    ofItems more username =
      { ofItems items username with dropped := (ofItems items username).dropped + n } := by
  induction h with
  | nil => rfl
  | keep item _ ih =>
    rw [ofItems, ofItems, ih]
    simp [append_eq, Nat.add_assoc]
  | @extra n items more item hitem _ ih =>
    -- An item that is not recognizable gives no record, so it is counted as dropped
    have hnone : Record.ofValue? item username = none := by
      rw [← Option.not_isSome_iff_eq_none, Record.isSome_ofValue?_iff]
      exact hitem
    rw [ofItems, hnone, ih]
    simp [append_eq, ofRecord]
    omega

/-- Collecting a dataset is one pass that starts with an empty timeline.

* Of two pieces of a dataset, the tweets of the second come behind those of the first, the profile
  is that of the second, if it has one, and the items dropped add up.
* Every item is a tweet, a profile or dropped.  The tweets stand in the order of the items, and the
  profile is the last one.
* Items that are not recognizable, put in anywhere, add their number to the items dropped. -/
theorem ofItems_collects (username : String) :
    ofItems [] username = { profile := none, tweets := [], dropped := 0 } ∧
    (∀ items, ofItems items username =
      items.foldl (fun t item => t.take (Record.ofValue? item username)) (ofItems [] username)) ∧
    (∀ a b,
      (ofItems (a ++ b) username).tweets =
        (ofItems a username).tweets ++ (ofItems b username).tweets ∧
      (ofItems (a ++ b) username).profile =
        (match (ofItems b username).profile with
          | some p => some p
          | none => (ofItems a username).profile) ∧
      (ofItems (a ++ b) username).dropped =
        (ofItems a username).dropped + (ofItems b username).dropped) ∧
    (∀ items,
      let tweets := items.filterMap fun item =>
        (Record.ofValue? item username).bind Record.tweet?
      let profiles := items.filterMap fun item =>
        (Record.ofValue? item username).bind Record.profile?
      (ofItems items username).tweets = tweets ∧
      (ofItems items username).profile = profiles.getLast? ∧
      items.length =
        (ofItems items username).tweets.length + (ofItems items username).dropped +
          profiles.length) ∧
    ∀ n items more, Interspersed n items more → ofItems more username =
      { ofItems items username with dropped := (ofItems items username).dropped + n } := by
  refine ⟨rfl, fun items => ?_, fun a b => ?_, fun items => ?_, fun n items more => ?_⟩
  -- Taking the items one after the other puts their timeline behind the empty one
  · rw [foldl_take]
    exact (empty_append _).symm
  -- The three parts of a timeline are put together on their own
  · rw [ofItems_append, tweets_append, profile_append, dropped_append]
    refine ⟨rfl, ?_, rfl⟩
    cases (ofItems b username).profile <;> rfl
  · exact ⟨tweets_ofItems items, profile_ofItems items, length_eq_ofItems items⟩
  · exact ofItems_interspersed

/-- Two items that are not recognizable, in front of a tweet and behind it. -/
theorem ofItems_collects_noise :
    let tweet : Value := .object [("text", .string "hello")]
    let noise : Value := .object [("unrelated", .bool true)]
    Interspersed 2 [tweet] [noise, tweet, .null] ∧
    ofItems [noise, tweet, .null] "alice" =
      ⟨none, [⟨none, "hello", none, 0, 0, 0, ""⟩], 2⟩ := by
  intro tweet noise
  have hunrecognizable : ∀ item ∈ [noise, .null], ¬ Recognizable item := by
    simp only [← @Record.isSome_ofValue?_iff _ "alice"]
    decide +kernel
  have hnoise : ¬ Recognizable noise := hunrecognizable _ (by simp)
  have hnull : ¬ Recognizable .null := hunrecognizable _ (by simp)
  have hmore : Interspersed 2 [tweet] [noise, tweet, .null] :=
    .extra hnoise (.keep tweet (.extra hnull .nil))
  have htweet : ofItems [tweet] "alice" = ⟨none, [⟨none, "hello", none, 0, 0, 0, ""⟩], 0⟩ := by
    decide +kernel
  refine ⟨hmore, ?_⟩
  rw [(ofItems_collects "alice").2.2.2.2 2 _ _ hmore, htweet]

end Timeline

end TweetHarvest
