import Mathlib.Data.List.Basic
import TweetHarvest.Proofs.Timeline.Kinds

/-!
# Aliases

A field of a tweet is read from the first of its aliases that has a value the field accepts: a text
accepts what says something, a count accepts anything.  So the aliases behind that one do not
matter, nor does it matter which of the aliases the value has, and no two fields have an alias in
common.

## Key results

- `Wins.chosen?_eq`: the first key with an accepted value
- `Record.Slot.shown_eq`: what a tweet shows of a field
- `Record.ofValue?_congr`: a record is determined by its marks and the values chosen for its fields
- `Record.ofValue?_aliases`: which keys a record depends on, and how
-/

namespace TweetHarvest

open Json (Value field?)

/-! ## Choosing among keys -/

section Choosing

variable {accepts : Value → Bool} {fields fields' : List (String × Value)}
  {before after keys : List String} {key : String} {v : Value}

/-- A field with another key is passed by. -/
theorem field?_cons_of_ne {k : String} (h : k ≠ key) (v : Value) (rest : List (String × Value)) :
    field? key ((k, v) :: rest) = field? key rest := if_neg h

/-- The first value under the keys that is accepted. -/
def chosen? (accepts : Value → Bool) (fields : List (String × Value)) (keys : List String) :
    Option Value :=
  (keys.filterMap fun key => field? key fields).find? accepts

/-- None of the keys has a value that is accepted. -/
def Passed (accepts : Value → Bool) (fields : List (String × Value)) (keys : List String) : Prop :=
  ∀ key ∈ keys, ∀ v, field? key fields = some v → accepts v = false

/-- The key has an accepted value, and the keys in front of it are passed over. -/
structure Wins (accepts : Value → Bool) (fields : List (String × Value)) (before : List String)
    (key : String) (v : Value) : Prop where
  passed : Passed accepts fields before
  value : field? key fields = some v
  accepted : accepts v = true

/-- If all keys are passed, nothing is chosen. -/
theorem Passed.chosen?_eq (h : Passed accepts fields keys) : chosen? accepts fields keys = none := by
  rw [chosen?, List.find?_eq_none]
  intro w hw
  obtain ⟨key, hkey, hvalue⟩ := List.mem_filterMap.1 hw
  simp [h key hkey w hvalue]

/-- Keys that are missing are passed over. -/
theorem passed_of_missing (h : ∀ key ∈ keys, field? key fields = none) :
    Passed accepts fields keys := by
  intro key hkey w hw
  rw [h key hkey] at hw
  exact nomatch hw

/-- The value of the winner is chosen, whatever follows. -/
theorem Wins.chosen?_eq (h : Wins accepts fields before key v) (after : List String) :
    chosen? accepts fields (before ++ key :: after) = some v := by
  have hbefore := h.passed.chosen?_eq
  rw [chosen?] at hbefore ⊢
  have hkey : (key :: after).filterMap (fun key => field? key fields) =
      v :: after.filterMap fun key => field? key fields := List.filterMap_cons_some h.value
  rw [List.filterMap_append, List.find?_append, hbefore, hkey, List.find?_cons_of_pos h.accepted]
  rfl

/-- Only the values of the keys matter. -/
theorem chosen?_congr (h : ∀ key ∈ keys, field? key fields' = field? key fields) :
    chosen? accepts fields' keys = chosen? accepts fields keys := by
  rw [chosen?, chosen?, List.filterMap_congr h]

/-- What the winner and the keys in front of it have makes it the winner. -/
theorem Wins.congr (h : Wins accepts fields before key v)
    (hbefore : ∀ k ∈ before, field? k fields' = field? k fields)
    (hkey : field? key fields' = field? key fields) : Wins accepts fields' before key v where
  passed k hk w hw := h.passed k hk w ((hbefore k hk).symm.trans hw)
  value := hkey.trans h.value
  accepted := h.accepted

/-- The first value that is present is chosen if every value is accepted. -/
theorem firstPresent?_eq : firstPresent? fields keys = chosen? (fun _ => true) fields keys := by
  rw [firstPresent?, chosen?, ← List.head?_filterMap]
  cases keys.filterMap fun key => field? key fields <;> rfl

/-- A count is that of the first value that is present, and zero without one. -/
theorem countOf_eq : countOf fields keys = ((firstPresent? fields keys).map Value.asCount).getD 0 := by
  unfold countOf
  cases firstPresent? fields keys <;> rfl

end Choosing

namespace Record

/-! ## The fields of a tweet -/

/-- The fields of a tweet. -/
inductive Slot where
  | text
  | createdAt
  | url
  | id
  | retweets
  | likes
  | replies
deriving DecidableEq, Repr

namespace Slot

/-- The aliases of a field, first choice in front. -/
def keys : Slot → List String
  | .text => aliases.text
  | .createdAt => aliases.createdAt
  | .url => aliases.url
  | .id => aliases.id
  | .retweets => aliases.retweets
  | .likes => aliases.likes
  | .replies => aliases.replies

/-- Whether a field takes a value: a text takes what says something, a count takes anything. -/
def accepts : Slot → Value → Bool
  | .text, v | .createdAt, v | .url, v | .id, v => v.isTruthy
  | .retweets, _ | .likes, _ | .replies, _ => true

/-- The value from which a field is read, if there is one. -/
def chosen? (slot : Slot) (fields : List (String × Value)) : Option Value :=
  TweetHarvest.chosen? slot.accepts fields slot.keys

/-- A field is read from the alias `key`, which has the value `v`. -/
structure Uses (slot : Slot) (fields : List (String × Value)) (before : List String) (key : String)
    (after : List String) (v : Value) : Prop extends Wins slot.accepts fields before key v where
  keys_eq : slot.keys = before ++ key :: after

/-- What a tweet shows of a field. -/
def shown : Slot → Tweet → Value
  | .text, t => .string t.text
  | .createdAt, t => .optionalString t.createdAt
  | .url, t => .string t.url
  | .id, t => .optionalString t.id
  | .retweets, t => .count t.retweets
  | .likes, t => .count t.likes
  | .replies, t => .count t.replies

/-- What is made of the value from which a field is read, or of there being none. -/
def reading : Slot → Option Value → Value
  | .text, v | .url, v => .string ((v.map Value.asText).getD "")
  | .createdAt, v | .id, v => .optionalString (v.map Value.asText)
  | .retweets, v | .likes, v | .replies, v => .count ((v.map Value.asCount).getD 0)

variable {slot : Slot} {fields fields' : List (String × Value)} {before after : List String}
  {key : String} {v : Value}

/-- No alias is that of two fields. -/
theorem eq_of_mem {slot' : Slot} (h : key ∈ slot.keys) (h' : key ∈ slot'.keys) : slot = slot' := by
  have hdisjoint : slot ≠ slot' → ∀ key ∈ slot.keys, key ∉ slot'.keys := by
    cases slot <;> cases slot' <;> decide
  exact Decidable.byContradiction fun hne => hdisjoint hne key h h'

/-- No alias is a mark of profiles. -/
theorem ne_mark_of_mem (h : key ∈ slot.keys) : key ≠ "type" ∧ key ≠ "followersCount" := by
  have hall : ∀ key ∈ slot.keys, key ≠ "type" ∧ key ≠ "followersCount" := by
    cases slot <;> decide
  exact hall key h

/-- An alias stands only once among those of its field. -/
theorem nodup_keys (slot : Slot) : slot.keys.Nodup := by
  cases slot <;> decide

/-- The value under the key that is used is chosen. -/
theorem Uses.chosen?_eq (h : slot.Uses fields before key after v) :
    slot.chosen? fields = some v := by
  rw [chosen?, h.keys_eq]
  exact h.toWins.chosen?_eq after

/-- The aliases behind the one that is used may change. -/
theorem Uses.congr_after (h : slot.Uses fields before key after v)
    (hsame : ∀ k, k ∉ after → field? k fields' = field? k fields) :
    slot.Uses fields' before key after v := by
  have hnodup := h.keys_eq ▸ slot.nodup_keys
  -- The winner and the aliases in front of it do not stand behind it once more
  have hafter : ∀ k ∈ before ++ [key], k ∉ after := by
    intro k hk hmem
    rw [← List.singleton_append, ← List.append_assoc] at hnodup
    exact (List.nodup_append.1 hnodup).2.2 k hk k hmem rfl
  have hwins : Wins slot.accepts fields' before key v :=
    h.toWins.congr (fun k hk => hsame k (hafter k (by simp [hk]))) (hsame key (hafter key (by simp)))
  exact ⟨hwins, h.keys_eq⟩

/-- The choice depends on the keys of the slot alone. -/
theorem chosen?_congr (h : ∀ key ∈ slot.keys, field? key fields' = field? key fields) :
    slot.chosen? fields' = slot.chosen? fields :=
  TweetHarvest.chosen?_congr h

end Slot

/-! ## Tweets from the values chosen -/

section Tweets

variable {fields fields' : List (String × Value)} {username : String}

/-- A tweet shows what is made of the value chosen for each field. -/
theorem Slot.shown_eq {t : Tweet} (h : toTweet? fields = some t) (slot : Slot) :
    slot.shown t = slot.reading (slot.chosen? fields) := by
  unfold toTweet? at h
  dsimp only at h
  split at h
  · exact nomatch h
  · obtain rfl := Option.some.inj h
    -- Counts take the first value that is present, the others the first one that says something
    cases slot with
    | text | createdAt | url | id => rfl
    | retweets | likes | replies =>
      simp only [shown, reading, countOf_eq, firstPresent?_eq]
      rfl

/-- A tweet is determined by the values chosen for its fields. -/
theorem toTweet?_congr (h : ∀ slot : Slot, slot.chosen? fields' = slot.chosen? fields) :
    toTweet? fields' = toTweet? fields := by
  have htext : firstTruthy? fields' aliases.text = firstTruthy? fields aliases.text := h .text
  have hurl : firstTruthy? fields' aliases.url = firstTruthy? fields aliases.url := h .url
  have hid : firstTruthy? fields' aliases.id = firstTruthy? fields aliases.id := h .id
  have hdate : firstTruthy? fields' aliases.createdAt = firstTruthy? fields aliases.createdAt :=
    h .createdAt
  -- For a count, every value that is present is chosen
  have hcount : ∀ slot : Slot, slot.accepts = (fun _ => true) →
      countOf fields' slot.keys = countOf fields slot.keys := by
    intro slot hslot
    have hchosen := h slot
    rw [Slot.chosen?, Slot.chosen?, hslot] at hchosen
    rw [countOf_eq, countOf_eq, firstPresent?_eq, firstPresent?_eq, hchosen]
  have hretweets := hcount .retweets rfl
  have hlikes := hcount .likes rfl
  have hreplies := hcount .replies rfl
  simp only [Slot.keys] at hretweets hlikes hreplies
  unfold toTweet? textOf?
  rw [htext, hurl, hid, hdate, hretweets, hlikes, hreplies]

/-- A tweet is dropped or kept by its text and its address alone. -/
theorem toTweet?_eq_none_congr
    (h : ∀ key ∈ aliases.text ++ aliases.url, field? key fields' = field? key fields) :
    toTweet? fields' = none ↔ toTweet? fields = none := by
  have hdropped : ∀ fields, toTweet? fields = none ↔ ¬ Says fields (aliases.text ++ aliases.url) := by
    intro fields
    rw [← Option.not_isSome_iff_eq_none, isSome_toTweet?_iff, says_append]
  rw [hdropped, hdropped, Says, Says]
  refine not_congr (exists_congr fun key => and_congr_right fun hkey => ?_)
  rw [h key hkey]

/-- The marks of a profile are those two keys. -/
theorem isMarked_congr (htype : field? "type" fields' = field? "type" fields)
    (hfollowers : field? "followersCount" fields' = field? "followersCount" fields) :
    IsMarked fields' ↔ IsMarked fields := by
  rw [IsMarked, IsMarked, htype, hfollowers]

/-- Without a mark, a record is determined by the values chosen for its fields. -/
theorem ofValue?_congr (h : ¬ IsMarked fields)
    (htype : field? "type" fields' = field? "type" fields)
    (hfollowers : field? "followersCount" fields' = field? "followersCount" fields)
    (hchosen : ∀ slot : Slot, slot.chosen? fields' = slot.chosen? fields) :
    ofValue? (.object fields') username = ofValue? (.object fields) username := by
  have h' : ¬ IsMarked fields' := mt (isMarked_congr htype hfollowers).1 h
  rw [ofValue?_of_not_isMarked h, ofValue?_of_not_isMarked h', toTweet?_congr hchosen]

/-- The aliases of one field may change as long as the same value is chosen. -/
theorem ofValue?_congr_slot (slot : Slot) (h : ¬ IsMarked fields)
    (hothers : ∀ k, k ∉ slot.keys → field? k fields' = field? k fields)
    (hchosen : slot.chosen? fields' = slot.chosen? fields) :
    ofValue? (.object fields') username = ofValue? (.object fields) username := by
  have hmark : ∀ key, key = "type" ∨ key = "followersCount" → key ∉ slot.keys := by
    rintro key hkey hmem
    obtain ⟨htype, hfollowers⟩ := Slot.ne_mark_of_mem hmem
    exact hkey.elim htype hfollowers
  refine ofValue?_congr h (hothers _ (hmark _ (.inl rfl))) (hothers _ (hmark _ (.inr rfl)))
    fun slot' => ?_
  by_cases hslot : slot' = slot
  · rw [hslot, hchosen]
  -- Another field has none of the aliases that have changed
  · exact Slot.chosen?_congr fun key hkey =>
      hothers key fun hmem => hslot (Slot.eq_of_mem hkey hmem)

/-- Which keys a record without the marks of a profile depends on, and how.

* Keys that are neither a mark nor an alias do not matter.
* A tweet shows of each field the value of the first alias whose value the field takes.
* The aliases behind that one do not matter, and the value may move to any other alias of the
  field, if those in front of it are missing.
* Whether there is a tweet depends on the aliases of its text and its address, and what it shows of
  a field depends on the aliases of that field. -/
theorem ofValue?_aliases (h : ¬ IsMarked fields) (username : String) :
    let record := ofValue? (.object fields) username
    (∀ fields', (∀ key, key = "type" ∨ key = "followersCount" ∨ (∃ slot : Slot, key ∈ slot.keys) →
        field? key fields' = field? key fields) →
      ofValue? (.object fields') username = record) ∧
    (∀ t, record = some (.tweet t) → ∀ slot : Slot,
      (∀ before key after v, slot.Uses fields before key after v →
        slot.shown t = slot.reading (some v)) ∧
      (Passed slot.accepts fields slot.keys → slot.shown t = slot.reading none)) ∧
    (∀ (slot : Slot) before key after v, slot.Uses fields before key after v →
      (∀ fields', (∀ k, k ∉ after → field? k fields' = field? k fields) →
        ofValue? (.object fields') username = record) ∧
      (∀ before' key' after', slot.keys = before' ++ key' :: after' →
        ∀ fields', (∀ k ∈ before', field? k fields' = none) → field? key' fields' = some v →
          (∀ k, k ∉ slot.keys → field? k fields' = field? k fields) →
          ofValue? (.object fields') username = record)) ∧
    (∀ fields', ¬ IsMarked fields' →
      ((∀ key ∈ aliases.text ++ aliases.url, field? key fields' = field? key fields) →
        (ofValue? (.object fields') username = none ↔ record = none)) ∧
      ∀ t t', record = some (.tweet t) → ofValue? (.object fields') username = some (.tweet t') →
        ∀ slot : Slot, (∀ key ∈ slot.keys, field? key fields' = field? key fields) →
          slot.shown t' = slot.shown t) := by
  intro record
  refine ⟨fun fields' hsame => ?_, fun t ht slot => ⟨fun before key after v huses => ?_,
    fun hpassed => ?_⟩, fun slot before key after v huses => ⟨fun fields' hsame => ?_,
    fun before' key' after' hkeys fields' hmissing hvalue hothers => ?_⟩,
    fun fields' h' => ⟨fun hsame => ?_, fun t t' ht ht' slot hsame => ?_⟩⟩
  · exact ofValue?_congr h (hsame _ (.inl rfl)) (hsame _ (.inr (.inl rfl))) fun slot =>
      Slot.chosen?_congr fun key hkey => hsame key (.inr (.inr ⟨slot, hkey⟩))
  · rw [Slot.shown_eq (toTweet?_of_ofValue? ht), huses.chosen?_eq]
  · rw [Slot.shown_eq (toTweet?_of_ofValue? ht), Slot.chosen?, hpassed.chosen?_eq]
  -- The keys that have changed are aliases of this field, so the others are read as before
  · refine ofValue?_congr_slot slot h (fun k hk => hsame k fun hmem => hk ?_) ?_
    · rw [huses.keys_eq]
      simp [hmem]
    · rw [(huses.congr_after hsame).chosen?_eq, huses.chosen?_eq]
  · have huses' : slot.Uses fields' before' key' after' v :=
      ⟨⟨passed_of_missing hmissing, hvalue, huses.accepted⟩, hkeys⟩
    refine ofValue?_congr_slot slot h hothers ?_
    rw [huses'.chosen?_eq, huses.chosen?_eq]
  · show _ ↔ ofValue? (.object fields) username = none
    rw [ofValue?_of_not_isMarked h, ofValue?_of_not_isMarked h', Option.map_eq_none_iff,
      Option.map_eq_none_iff]
    exact toTweet?_eq_none_congr hsame
  · rw [Slot.shown_eq (toTweet?_of_ofValue? ht), Slot.shown_eq (toTweet?_of_ofValue? ht'),
      Slot.chosen?_congr hsame]

/-- Fields with a text under its second alias, since the first one is empty, and with a count of
zero under its first one. -/
def sampleFields : List (String × Value) :=
  [("content", .string "last"), ("full_text", .string "hello"), ("text", .string ""),
    ("favorite_count", .count 50), ("likeCount", .count 0)]

/-- The text of the sample may move to the last alias, and neither a key that is no alias nor what
the last aliases have matters; an address is added to the tweet and changes nothing else. -/
theorem ofValue?_aliases_sample :
    let record := ofValue? (.object sampleFields) "alice"
    let t : Tweet := ⟨none, "hello", none, 0, 0, 0, ""⟩
    ¬ IsMarked sampleFields ∧ record = some (.tweet t) ∧
    ofValue? (.object (("lang", .string "en") :: sampleFields)) "alice" = record ∧
    Slot.text.shown t = .string "hello" ∧ Slot.likes.shown t = .count 0 ∧
    Slot.id.shown t = .null ∧
    ofValue? (.object (("content", .null) :: sampleFields.drop 1)) "alice" = record ∧
    ofValue? (.object (("content", .string "hello") :: sampleFields.drop 3)) "alice" = record ∧
    ∀ t', ofValue? (.object (("url", .string "here") :: sampleFields)) "alice" =
      some (.tweet t') → Slot.likes.shown t' = Slot.likes.shown t := by
  intro record t
  -- None of the fields below marks a profile
  have hunmarked : ∀ fields, isProfile fields = false → ¬ IsMarked fields := fun fields h =>
    mt isProfile_iff.2 (by simp [h])
  have hsample : ¬ IsMarked sampleFields := hunmarked _ (by decide +kernel)
  have hrecord : record = some (.tweet t) := by decide +kernel
  -- How the text, the likes and the id of the sample are chosen
  have htext : Slot.text.Uses sampleFields ["text"] "full_text" ["content"] (.string "hello") := by
    refine ⟨⟨?_, rfl, rfl⟩, rfl⟩
    intro k hk w hw
    obtain rfl := List.mem_singleton.1 hk
    obtain rfl := Option.some.inj hw
    rfl
  have hlikes : Slot.likes.Uses sampleFields [] "likeCount" ["favorite_count", "like_count"]
      (.count 0) := ⟨⟨nofun, rfl, rfl⟩, rfl⟩
  have hid : Passed Slot.id.accepts sampleFields Slot.id.keys :=
    passed_of_missing (by decide +kernel)
  obtain ⟨hothers, hshown, hused, hindependent⟩ := ofValue?_aliases hsample "alice"
  obtain ⟨hbehind, hmoved⟩ := hused .text _ _ _ _ htext
  refine ⟨hsample, hrecord, hothers _ ?_, (hshown t hrecord .text).1 _ _ _ _ htext,
    (hshown t hrecord .likes).1 _ _ _ _ hlikes, (hshown t hrecord .id).2 hid, hbehind _ ?_,
    hmoved ["text", "full_text"] "content" [] rfl _ (by decide +kernel) rfl ?_,
    fun t' ht' => (hindependent _ (hunmarked _ (by decide +kernel))).2 t t' hrecord ht' .likes ?_⟩
  · rintro key (rfl | rfl | ⟨slot, hkey⟩)
    · rfl
    · rfl
    · have hlang : ∀ slot : Slot, ∀ key ∈ slot.keys, "lang" ≠ key := by
        rintro (_ | _ | _ | _ | _ | _ | _) <;> decide
      exact field?_cons_of_ne (hlang slot key hkey) ..
  · intro k hk
    have hne : "content" ≠ k := fun h => hk (h ▸ List.mem_cons_self ..)
    rw [field?_cons_of_ne hne, sampleFields, field?_cons_of_ne hne]
    rfl
  · intro k hk
    simp only [Slot.keys, aliases, List.mem_cons, List.not_mem_nil, or_false, not_or] at hk
    obtain ⟨htext, hfull, hcontent⟩ := hk
    rw [field?_cons_of_ne (Ne.symm hcontent), sampleFields, field?_cons_of_ne (Ne.symm hcontent),
      field?_cons_of_ne (Ne.symm hfull), field?_cons_of_ne (Ne.symm htext)]
    rfl
  · have hurl : ∀ key ∈ Slot.likes.keys, "url" ≠ key := by decide
    exact fun key hkey => field?_cons_of_ne (hurl key hkey) ..

end Tweets

end Record

end TweetHarvest
