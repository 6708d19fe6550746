import TweetHarvest.Proofs.Json.Reading
import TweetHarvest.Timeline.Basic

/-!
# Items that are recognized

Which items of a dataset are records: those that call themselves a profile or count its followers,
and those that say something under one of the keys for the text or the address of a tweet.  All
others leave no trace in a timeline but their number.

## Key results

- `Record.isSome_ofValue?_iff`: an item is a record if it is recognizable
- `Timeline.isBlank_ofItems_iff`: a timeline is blank if no item is recognizable
-/

namespace TweetHarvest

open Json (Value)

/-- One of the keys has a value that says something. -/
def Says (fields : List (String × Value)) (keys : List String) : Prop :=
  ∃ key ∈ keys, ∃ v, Json.field? key fields = some v ∧ v.isTruthy = true

/-- An item that is a record, of a profile or of a tweet. -/
inductive Recognizable : Value → Prop
  | profile {fields : List (String × Value)}
      (h : Json.field? "type" fields = some (.string "profile")) : Recognizable (.object fields)
  | followers {fields : List (String × Value)} {v : Value}
      (h : Json.field? profileMarker fields = some v) : Recognizable (.object fields)
  | text {fields : List (String × Value)} (h : Says fields aliases.text) :
      Recognizable (.object fields)
  | address {fields : List (String × Value)} (h : Says fields aliases.url) :
      Recognizable (.object fields)

/-! ## Texts of fields -/

/-- A value that says something has a text that is not empty. -/
theorem Json.Value.asText_ne_empty {v : Value} (h : v.isTruthy = true) : v.asText ≠ "" := by
  -- The text of any value but a string is its compact text, which has a first character
  have hcompact : v.compact ≠ "" := by
    obtain ⟨c, cs, hspell, -⟩ := v.head_spell .compact 0
    rw [← v.compactChars_eq] at hspell
    intro hempty
    have hchars := congrArg String.toList hempty
    rw [Value.compact, String.toList_ofList, hspell] at hchars
    cases hchars
  cases v with
  | string s => simpa [Value.isTruthy, Value.asText] using h
  | _ => exact hcompact

/-- A text that is found under some keys is not empty. -/
theorem textOf?_ne_empty {fields : List (String × Value)} {keys : List String} {s : String}
    (h : textOf? fields keys = some s) : s ≠ "" := by
  obtain ⟨v, hv, rfl⟩ := Option.map_eq_some_iff.1 h
  exact Value.asText_ne_empty (List.find?_some hv)

/-- Keys have a text if one of them says something. -/
theorem isSome_textOf?_iff {fields : List (String × Value)} {keys : List String} :
    (textOf? fields keys).isSome = true ↔ Says fields keys := by
  rw [textOf?, Option.isSome_map, firstTruthy?, List.find?_isSome]
  constructor
  · rintro ⟨v, hv, htruthy⟩
    obtain ⟨key, hkey, hv⟩ := List.mem_filterMap.1 hv
    exact ⟨key, hkey, v, hv, htruthy⟩
  · rintro ⟨key, hkey, v, hv, htruthy⟩
    exact ⟨v, List.mem_filterMap.2 ⟨key, hkey, hv⟩, htruthy⟩

/-- A text that is missing counts as empty, and no other one is. -/
theorem getD_textOf?_eq_empty_iff {fields : List (String × Value)} {keys : List String} :
    (textOf? fields keys).getD "" = "" ↔ ¬ Says fields keys := by
  rw [← isSome_textOf?_iff]
  cases h : textOf? fields keys with
  | none => simp
  | some s => simpa using textOf?_ne_empty h

/-! ## Records -/

namespace Record

/-- Fields make a tweet if they say something as the text or as the address. -/
theorem isSome_toTweet?_iff {fields : List (String × Value)} :
    (toTweet? fields).isSome = true ↔ Says fields aliases.text ∨ Says fields aliases.url := by
  unfold toTweet?
  dsimp only
  split
  · next h =>
    rw [getD_textOf?_eq_empty_iff, getD_textOf?_eq_empty_iff] at h
    simp [h.1, h.2]
  · next h =>
    rw [getD_textOf?_eq_empty_iff, getD_textOf?_eq_empty_iff, ← not_or, Classical.not_not] at h
    simp [h]

/-- Fields are those of a profile if they say so or count followers. -/
theorem isProfile_iff {fields : List (String × Value)} :
    isProfile fields = true ↔ Json.field? "type" fields = some (.string "profile") ∨
      ∃ v, Json.field? profileMarker fields = some v := by
  -- Under the key there has to be a text, and it has to be this one
  have htype : (Json.field? "type" fields).bind Value.string? = some "profile" ↔
      Json.field? "type" fields = some (.string "profile") := by
    rw [Option.bind_eq_some_iff]
    constructor
    · rintro ⟨v, hv, hs⟩
      cases v with
      | string s =>
        obtain rfl := Option.some.inj hs
        exact hv
      | _ => exact nomatch hs
    · exact fun h => ⟨_, h, rfl⟩
  rw [isProfile, Bool.or_eq_true, decide_eq_true_eq, htype, Option.isSome_iff_exists]

/-- An item is a record if it is recognizable. -/
theorem isSome_ofValue?_iff {v : Value} {username : String} :
    (ofValue? v username).isSome = true ↔ Recognizable v := by
  cases v with
  | object fields =>
    simp only [ofValue?]
    by_cases hprofile : isProfile fields = true
    · rw [if_pos hprofile]
      refine ⟨fun _ => ?_, fun _ => rfl⟩
      rcases isProfile_iff.1 hprofile with h | ⟨v, h⟩
      · exact .profile h
      · exact .followers h
    · rw [if_neg hprofile, Option.isSome_map, isSome_toTweet?_iff]
      constructor
      · rintro (h | h)
        · exact .text h
        · exact .address h
      -- What makes a profile recognizable has been ruled out
      · rintro (h | h | h | h)
        · exact absurd (isProfile_iff.2 (.inl h)) hprofile
        · exact absurd (isProfile_iff.2 (.inr ⟨_, h⟩)) hprofile
        · exact .inl h
        · exact .inr h
  | _ => exact ⟨nofun, nofun⟩

end Record

/-! ## Timelines -/

namespace Timeline

/-- There is nothing in a timeline: no profile and no tweet. -/
def IsBlank (t : Timeline) : Prop := t.profile = none ∧ t.tweets = []

/-- Two timelines together are blank if both of them are. -/
theorem isBlank_append {a b : Timeline} : (a ++ b).IsBlank ↔ a.IsBlank ∧ b.IsBlank := by
  show (b.profile.or a.profile = none ∧ a.tweets ++ b.tweets = []) ↔ _
  rw [Option.or_eq_none_iff, List.append_eq_nil_iff, IsBlank, IsBlank]
  constructor
  · rintro ⟨⟨hb, ha⟩, ha', hb'⟩
    exact ⟨⟨ha, ha'⟩, hb, hb'⟩
  · rintro ⟨⟨ha, ha'⟩, hb, hb'⟩
    exact ⟨⟨hb, ha⟩, ha', hb'⟩

/-- The timeline of a single item is blank if the item is no record. -/
theorem isBlank_ofRecord_iff {record : Option Record} : (ofRecord record).IsBlank ↔ record = none := by
  rcases record with _ | _ | _ <;> simp [ofRecord, IsBlank]

/-- A timeline is blank if none of its items is recognizable. -/
theorem isBlank_ofItems_iff {items : List Value} {username : String} :
    (ofItems items username).IsBlank ↔ ∀ item ∈ items, ¬ Recognizable item := by
  induction items with
  | nil => simp [ofItems, empty, IsBlank]
  | cons item items ih =>
    rw [ofItems, isBlank_append, isBlank_ofRecord_iff, ih, List.forall_mem_cons,
      ← @Record.isSome_ofValue?_iff item username, Option.not_isSome_iff_eq_none]

end Timeline

end TweetHarvest
