import TweetHarvest.Proofs.Timeline.Recognized

/-!
# What an item is taken for

An item of a dataset is a profile, a tweet or nothing, and its fields tell which: the marks of a
profile decide first, whatever else there is; without them an item is a tweet if one of its texts or
addresses says something.  A text is never empty if the value that it comes from says something.

## Key results

- `Json.Value.isTruthy_eq_false_iff`: the values that say nothing
- `Record.toTweet?_eq_some`: what a tweet takes over from its fields
- `Record.ofValue?_cases`: the two ways in which fields make a record
- `Record.ofValue?_kinds`: which items are dropped, which are profiles, and what tweets hold
-/

namespace TweetHarvest

open Json (Value)

/-! ## Values that say nothing -/

namespace Json

/-- The values that say nothing. -/
inductive SaysNothing : Value → Prop
  | null : SaysNothing .null
  | no : SaysNothing (.bool false)
  | zero : SaysNothing (.number (.unsigned 0))
  /-- Zero as a double, also `-0.0`. -/
  | signedZero (negative : Bool) : SaysNothing (.number (.float (.zero negative)))
  | noText : SaysNothing (.string "")
  | noItems : SaysNothing (.array [])
  | noFields : SaysNothing (.object [])

/-- A number says nothing if it is zero, as an integer or as a double. -/
theorem Number.isNonzero_eq_false_iff {n : Number} :
    n.isNonzero = false ↔ SaysNothing (.number n) := by
  constructor
  · intro h
    cases n with
    | unsigned n =>
      obtain rfl : n = 0 := by simpa [Number.isNonzero] using h
      exact .zero
    | negative n => exact nomatch h
    | float x =>
      -- A double is zero by its position alone, its sign does not matter
      have hx : x = .zero x.negative := by
        have hordinal : x.ordinal.val = 0 := by
          simpa [Number.isNonzero, Binary64.isZero] using h
        cases x
        simpa [Binary64.zero, Fin.ext_iff] using hordinal
      rw [hx]
      exact .signedZero _
  · rintro (_ | _)
    all_goals rfl

/-- The values that are skipped are those that say nothing. -/
theorem Value.isTruthy_eq_false_iff {v : Value} : v.isTruthy = false ↔ SaysNothing v := by
  constructor
  · intro h
    -- Each kind of value has one that says nothing
    cases v with
    | null => exact .null
    | bool b =>
      obtain rfl : b = false := h
      exact .no
    | number n => exact Number.isNonzero_eq_false_iff.1 h
    | string s =>
      obtain rfl : s = "" := by simpa [Value.isTruthy] using h
      exact .noText
    | array items =>
      obtain rfl : items = [] := by simpa [Value.isTruthy] using h
      exact .noItems
    | object fields =>
      obtain rfl : fields = [] := by simpa [Value.isTruthy] using h
      exact .noFields
  · rintro (_ | _)
    all_goals rfl

end Json

open Json (SaysNothing)

/-- Keys say nothing if each of them is missing or has a value that says nothing. -/
theorem not_says_iff {fields : List (String × Value)} {keys : List String} :
    ¬ Says fields keys ↔
      ∀ key ∈ keys, ∀ v, Json.field? key fields = some v → SaysNothing v := by
  constructor
  · intro h key hkey v hv
    rw [← Value.isTruthy_eq_false_iff, ← Bool.not_eq_true]
    exact fun htruthy => h ⟨key, hkey, v, hv, htruthy⟩
  · rintro h ⟨key, hkey, v, hv, htruthy⟩
    rw [Value.isTruthy_eq_false_iff.2 (h key hkey v hv)] at htruthy
    exact nomatch htruthy

/-- Under keys of two lists something is said if that is so for one of them. -/
theorem says_append {fields : List (String × Value)} {keys keys' : List String} :
    Says fields (keys ++ keys') ↔ Says fields keys ∨ Says fields keys' := by
  simp only [Says, List.mem_append, or_and_right, exists_or]

/-! ## Records -/

namespace Record

/-- The fields have a mark of a profile: they say so, or they count followers, with whatever
value. -/
def IsMarked (fields : List (String × Value)) : Prop :=
  Json.field? "type" fields = some (.string "profile") ∨
    ∃ v, Json.field? "followersCount" fields = some v

/-- What a tweet takes over from its fields. -/
theorem toTweet?_eq_some {fields : List (String × Value)} {t : Tweet}
    (h : toTweet? fields = some t) :
    ¬ (t.text = "" ∧ t.url = "") ∧ t.id = textOf? fields aliases.id ∧
      t.createdAt = textOf? fields aliases.createdAt := by
  unfold toTweet? at h
  dsimp only at h
  split at h
  · exact nomatch h
  · next hsaid =>
    obtain rfl := Option.some.inj h
    exact ⟨hsaid, rfl, rfl⟩

/-- The fields of a profile make a profile. -/
theorem ofValue?_of_isMarked {fields : List (String × Value)} (h : IsMarked fields)
    (username : String) :
    ofValue? (.object fields) username = some (.profile (toProfile fields username)) :=
  if_pos (isProfile_iff.2 h)

/-- Fields without the marks of a profile can only make a tweet. -/
theorem ofValue?_of_not_isMarked {fields : List (String × Value)} (h : ¬ IsMarked fields)
    (username : String) :
    ofValue? (.object fields) username = (toTweet? fields).map .tweet :=
  if_neg (mt isProfile_iff.1 h)

/-- Every record of fields is the profile of marked fields or the tweet of fields without a mark. -/
theorem ofValue?_cases {fields : List (String × Value)} {username : String} {record : Record}
    (h : ofValue? (.object fields) username = some record) :
    (IsMarked fields ∧ record = .profile (toProfile fields username)) ∨
      (¬ IsMarked fields ∧ ∃ t, toTweet? fields = some t ∧ record = .tweet t) := by
  by_cases hmarked : IsMarked fields
  · rw [ofValue?_of_isMarked hmarked] at h
    exact .inl ⟨hmarked, (Option.some.inj h).symm⟩
  · rw [ofValue?_of_not_isMarked hmarked] at h
    obtain ⟨t, ht, hrecord⟩ := Option.map_eq_some_iff.1 h
    exact .inr ⟨hmarked, t, ht, hrecord.symm⟩

/-- The tweet that an object is recognized as is the one that its fields make. -/
theorem toTweet?_of_ofValue? {fields : List (String × Value)} {username : String} {t : Tweet}
    (h : ofValue? (.object fields) username = some (.tweet t)) : toTweet? fields = some t := by
  obtain ⟨-, hprofile⟩ | ⟨-, t', ht', htweet⟩ := ofValue?_cases h
  · exact nomatch hprofile
  · obtain rfl := Record.tweet.inj htweet
    exact ht'

/-- Which fields make no record. -/
theorem ofValue?_object_eq_none_iff {fields : List (String × Value)} {username : String} :
    ofValue? (.object fields) username = none ↔
      ¬ IsMarked fields ∧ ¬ Says fields (aliases.text ++ aliases.url) := by
  by_cases hmarked : IsMarked fields
  · simp [ofValue?_of_isMarked hmarked, hmarked]
  · rw [ofValue?_of_not_isMarked hmarked, Option.map_eq_none_iff, ← Option.not_isSome_iff_eq_none,
      isSome_toTweet?_iff, says_append]
    simp [hmarked]

/-- An item is dropped if it is no object, or if it has no mark of a profile and each of its texts
and addresses is missing or says nothing.  Every tweet has a text or an address, and neither an
empty id nor an empty date.  An item with a mark of a profile, and no other one, is a profile. -/
theorem ofValue?_kinds (v : Value) (username : String) :
    (ofValue? v username = none ↔
      (∀ fields, v ≠ .object fields) ∨
      ∃ fields, v = .object fields ∧ ¬ IsMarked fields ∧
        ∀ key ∈ ["text", "full_text", "content", "url", "tweetUrl"],
          ∀ w, Json.field? key fields = some w → SaysNothing w) ∧
    (∀ t, ofValue? v username = some (.tweet t) →
      (t.text ≠ "" ∨ t.url ≠ "") ∧ t.id ≠ some "" ∧ t.createdAt ≠ some "") ∧
    ((∃ p, ofValue? v username = some (.profile p)) ↔
      ∃ fields, v = .object fields ∧ IsMarked fields) := by
  cases v with
  | object fields =>
    refine ⟨?_, fun t ht => ?_, ?_⟩
    · rw [ofValue?_object_eq_none_iff, not_says_iff]
      simp [aliases]
    · -- Only fields without the marks make a tweet
      have hunmarked : ¬ IsMarked fields := fun hmarked => by
        simp [ofValue?_of_isMarked hmarked] at ht
      rw [ofValue?_of_not_isMarked hunmarked] at ht
      obtain ⟨t', ht', heq⟩ := Option.map_eq_some_iff.1 ht
      obtain rfl : t' = t := Record.tweet.inj heq
      obtain ⟨hsaid, hid, hdate⟩ := toTweet?_eq_some ht'
      refine ⟨Classical.not_and_iff_not_or_not.1 hsaid, fun h => ?_, fun h => ?_⟩
      · exact textOf?_ne_empty (hid.symm.trans h) rfl
      · exact textOf?_ne_empty (hdate.symm.trans h) rfl
    · by_cases hmarked : IsMarked fields
      · simp [ofValue?_of_isMarked hmarked, hmarked]
      · simp [ofValue?_of_not_isMarked hmarked, hmarked]
  | _ => simp [ofValue?]

end Record

end TweetHarvest
