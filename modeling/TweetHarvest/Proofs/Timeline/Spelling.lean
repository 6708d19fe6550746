import TweetHarvest.Proofs.Json.Numbers
import TweetHarvest.Proofs.Timeline.Counts

/-!
# Numbers and their texts

A count may be given as a number or as the text of this number.  The text of a double has a point or
an exponent, and a text with one of them counts as nothing, while the number counts with its whole
part.  So the two are the same for integers and for numbers below one, and differ for all other
doubles.

## Key results

- `Json.Number.asCount_compact`: the text of a number as a count
- `Record.exists_count`: a record whose count has another value
- `Record.ofValue?_spelled`: when the text of a number counts the same as the number
- `Record.ofValue?_spelled_fraction`: a number whose text counts as nothing
-/

namespace TweetHarvest

open Json (Value Number field?)

namespace Json.Number

/-- The text of an integer counts as the number, and that of a double counts as nothing. -/
theorem asCount_compact (n : Number) :
    (n.IsInteger → (Value.string (Value.number n).compact).asCount = n.asCount) ∧
    (¬ n.IsInteger → (Value.string (Value.number n).compact).asCount = 0) := by
  -- A character that is neither a digit nor a plus sign is not lost with the blanks
  have hzero : ∀ c ∈ n.chars, c.isDigit = false → c ≠ '+' → Text.isBlank c = false →
      (Value.string (Value.number n).compact).asCount = 0 := by
    intro c hc hdigit hplus hblank
    have hread : Decimal.read? UInt64.size (Text.trimChars n.chars) = none :=
      Decimal.read?_eq_none_of_mem (Text.mem_trimChars hc hblank) hdigit hplus
    show ((Decimal.read? UInt64.size (Text.trimChars (String.ofList n.chars).toList)).getD 0).toUInt64
      = 0
    rw [String.toList_ofList, hread]
    rfl
  cases n with
  | unsigned n =>
    refine ⟨fun hn => ?_, fun hn => absurd trivial hn⟩
    have htext : (Value.number (.unsigned n)).compact = toString n :=
      compact_eq_toString (z := n.toNat) hn rfl
    have hspells : SpellsCount (toString n) n :=
      ⟨"", "", 0, "", rfl, rfl, .inl rfl, by simp⟩
    rw [htext, Value.asCount_of_spellsCount hspells]
    rfl
  | negative n =>
    refine ⟨fun _ => ?_, fun hn => absurd trivial hn⟩
    exact hzero '-' (List.mem_cons_self ..) (by decide) (by decide) (by decide)
  | float x =>
    refine ⟨fun hn => hn.elim, fun _ => ?_⟩
    rcases x.mark_mem_text with hpoint | hexponent
    · exact hzero '.' hpoint (by decide) (by decide) (by decide)
    · exact hzero 'e' hexponent (by decide) (by decide) (by decide)

/-- The text of a number counts the same as the number for integers and for numbers below one. -/
theorem asCount_compact_eq_iff (n : Number) :
    (Value.string (Value.number n).compact).asCount = n.asCount ↔ n.IsInteger ∨ n.exact < 1 := by
  by_cases hn : n.IsInteger
  · simp [n.asCount_compact.1 hn, hn]
  · rw [n.asCount_compact.2 hn, eq_comm, asCount_eq_zero_iff]
    simp [hn]

end Json.Number

namespace Record

variable {fields fields' : List (String × Value)} {username : String} {record : Record}
  {keys before after : List String} {key : String} {count : UInt64}

/-- With another value for one of its counts, a record is still such a record. -/
theorem exists_count (h : ofValue? (.object fields) username = some record)
    (hcount : (keys, count) ∈ record.counts) (hkey : key ∈ keys) {w : Value}
    (hw : field? key fields' = some w)
    (hothers : ∀ k, k ≠ key → field? k fields' = field? k fields) :
    ∃ record', ofValue? (.object fields') username = some record' ∧
      (keys, countOf fields' keys) ∈ record'.counts := by
  obtain ⟨hmarked, rfl⟩ | ⟨hmarked, t, ht, rfl⟩ := ofValue?_cases h
  · rw [counts_profile] at hcount
    obtain ⟨_, hkeys, heq⟩ := List.mem_map.1 hcount
    obtain ⟨rfl, -⟩ := Prod.mk.inj heq
    have hne : ∀ keys ∈ profileCountKeys, ∀ key ∈ keys, "type" ≠ key := by decide
    -- The number of followers is a mark with any value
    have hmarked' : IsMarked fields' := by
      rcases hmarked with htype | ⟨u, hu⟩
      · exact .inl ((hothers _ (hne _ hkeys _ hkey)).trans htype)
      · by_cases hfollowers : "followersCount" = key
        · exact .inr ⟨w, hfollowers ▸ hw⟩
        · exact .inr ⟨u, (hothers _ hfollowers).trans hu⟩
    refine ⟨_, ofValue?_of_isMarked hmarked' username, ?_⟩
    rw [counts_profile]
    exact List.mem_map.2 ⟨_, hkeys, rfl⟩
  · rw [counts_tweet ht] at hcount
    obtain ⟨_, hkeys, heq⟩ := List.mem_map.1 hcount
    obtain ⟨rfl, -⟩ := Prod.mk.inj heq
    have hne : ∀ keys ∈ tweetCountKeys, ∀ key ∈ keys, "type" ≠ key ∧ "followersCount" ≠ key ∧
        key ∉ aliases.text ++ aliases.url := by decide
    obtain ⟨htype, hfollowers, hsaid⟩ := hne _ hkeys _ hkey
    have hmarked' : ¬ IsMarked fields' :=
      mt (isMarked_congr (hothers _ htype) (hothers _ hfollowers)).1 hmarked
    have htweet : toTweet? fields' ≠ none := by
      rw [ne_eq, toTweet?_eq_none_congr fun k hk => hothers k fun hsame => hsaid (hsame ▸ hk), ht]
      exact nofun
    obtain ⟨t', ht'⟩ := Option.ne_none_iff_exists'.1 htweet
    refine ⟨.tweet t', by rw [ofValue?_of_not_isMarked hmarked', ht']; rfl, ?_⟩
    rw [counts_tweet ht']
    exact List.mem_map.2 ⟨_, hkeys, rfl⟩

/-- With the text of a number in place of the number itself, a record has the same count if the
number is an integer of 64 bits or below one, and in no other case.  The text of any number but
such an integer counts as nothing. -/
theorem ofValue?_spelled {n : Number} (h : ofValue? (.object fields) username = some record)
    (hcount : (keys, count) ∈ record.counts) (hkeys : keys = before ++ key :: after)
    (hmissing : ∀ k ∈ before, field? k fields = none)
    (hnumber : field? key fields = some (.number n))
    (htext : field? key fields' = some (.string (Value.number n).compact))
    (hothers : ∀ k, k ≠ key → field? k fields' = field? k fields) :
    ∃ record' count', ofValue? (.object fields') username = some record' ∧
      (keys, count') ∈ record'.counts ∧ (count' = count ↔ n.IsInteger ∨ n.exact < 1) ∧
      (¬ n.IsInteger → count' = 0) := by
  have hwins : Wins (fun _ => true) fields before key (.number n) :=
    ⟨passed_of_missing hmissing, hnumber, rfl⟩
  have hwins' : Wins (fun _ => true) fields' before key (.string (Value.number n).compact) := by
    refine ⟨passed_of_missing fun k hk => ?_, htext, rfl⟩
    -- The key itself is not missing, so it is none of those in front
    have hne : k ≠ key := by
      rintro rfl
      exact nomatch (hmissing k hk).symm.trans hnumber
    rw [hothers k hne, hmissing k hk]
  have hpresent : firstPresent? fields keys = some (.number n) := by
    rw [firstPresent?_eq, hkeys, hwins.chosen?_eq]
  have hpresent' : firstPresent? fields' keys = some (.string (Value.number n).compact) := by
    rw [firstPresent?_eq, hkeys, hwins'.chosen?_eq]
  have hkey : key ∈ keys := by simp [hkeys]
  obtain ⟨record', h', hcount'⟩ := exists_count h hcount hkey htext hothers
  have hasCount : count = n.asCount := count_eq_asCount h hcount hpresent
  have hasCount' : countOf fields' keys = (Value.string (Value.number n).compact).asCount :=
    count_eq_asCount h' hcount' hpresent'
  refine ⟨record', _, h', hcount', ?_, fun hn => ?_⟩
  · rw [hasCount, hasCount']
    exact n.asCount_compact_eq_iff
  · rw [hasCount', n.asCount_compact.2 hn]

/-- The greatest count is the same as a number and as a text. -/
theorem ofValue?_spelled_greatest :
    ∃ record' count', ofValue? (.object [("text", .string "hello"),
        ("likeCount", .string "18446744073709551615")]) "alice" = some record' ∧
      (aliases.likes, count') ∈ record'.counts ∧ count' = 18446744073709551615 := by
  let n : Number := .unsigned 18446744073709551615
  let fields : List (String × Value) := [("text", .string "hello"), ("likeCount", .number n)]
  let t : Tweet := ⟨none, "hello", none, 0, 18446744073709551615, 0, ""⟩
  have htweet : ofValue? (.object fields) "alice" = some (.tweet t) := by decide +kernel
  have hcount : (aliases.likes, t.likes) ∈ (Record.tweet t).counts := by simp [counts]
  have hkeys : aliases.likes = [] ++ "likeCount" :: ["favorite_count", "like_count"] := rfl
  -- The text is that of the number
  have htext : (Value.number n).compact = "18446744073709551615" := by decide +kernel
  have hothers : ∀ k, k ≠ "likeCount" →
      field? k [("text", .string "hello"), ("likeCount", .string "18446744073709551615")] =
        field? k fields := by
    intro k hk
    simp [fields, field?, hk.symm]
  obtain ⟨record', count', h', hcount', hsame, -⟩ :=
    ofValue?_spelled htweet hcount hkeys (List.forall_mem_nil _) rfl (by rw [htext]; rfl) hothers
  exact ⟨record', count', h', hcount', hsame.2 (.inl trivial)⟩

/-- One and a half. -/
def oneAndHalf : Binary64 := ⟨false, ⟨0x3ff8000000000000, by decide⟩⟩

/-- A record with one and a half likes has one like, and none if this number is given as a text. -/
theorem ofValue?_spelled_fraction :
    (Value.number (.float oneAndHalf)).compact = "1.5" ∧
      ofValue? (.object [("text", .string "hello"), ("likeCount", .number (.float oneAndHalf))])
        "alice" = some (.tweet ⟨none, "hello", none, 0, 1, 0, ""⟩) ∧
      ofValue? (.object [("text", .string "hello"), ("likeCount", .string "1.5")]) "alice" =
        some (.tweet ⟨none, "hello", none, 0, 0, 0, ""⟩) := by
  decide +kernel

end Record

end TweetHarvest
