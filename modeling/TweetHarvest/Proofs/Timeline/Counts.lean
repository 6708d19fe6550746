import TweetHarvest.Proofs.Json.Exact
import TweetHarvest.Proofs.Text.Ends
import TweetHarvest.Proofs.Text.Numerals
import TweetHarvest.Proofs.Timeline.Aliases

/-!
# Counts and ids

The counts of a record are as precise as 64 bits allow, no matter whether they are given as an
integer, as a double or as a text with the digits of an integer.  An id that is given as an integer
is the text of this integer.

## Key results

- `Record.eq_countOf`: where the counts of a record come from
- `Json.Value.asCount_of_spellsCount`: texts with the digits of a number
- `Json.Number.compact_eq_toString`: the text of an integer
- `Record.ofValue?_exact`: counts and ids are exact
-/

namespace TweetHarvest

open Json (Value Number field? towardZero)

/-! ## Texts with digits -/

/-- The text has the digits of the number, with a plus sign and zeros in front if need be, and
blanks around them. -/
def SpellsCount (s : String) (n : UInt64) : Prop :=
  ∃ front sign zeros back, Text.isAllBlank front = true ∧ Text.isAllBlank back = true ∧
    (sign = "" ∨ sign = "+") ∧
    s = front ++ sign ++ String.ofList (List.replicate zeros '0') ++ toString n ++ back

/-- A count is printed in decimal digits. -/
theorem toList_toString (n : UInt64) : (toString n).toList = Decimal.digits n.toNat := by
  rw [Decimal.digits_eq_toDigits]
  exact Nat.toList_repr

/-- A text with the digits of a number counts as this number. -/
theorem Json.Value.asCount_of_spellsCount {s : String} {n : UInt64} (h : SpellsCount s n) :
    (Value.string s).asCount = n := by
  obtain ⟨front, sign, zeros, back, hfront, hback, hsign, rfl⟩ := h
  let core := sign.toList ++ (List.replicate zeros '0' ++ Decimal.digits n.toNat)
  have hchars : (front ++ sign ++ String.ofList (List.replicate zeros '0') ++ toString n ++
      back).toList = front.toList ++ (core ++ back.toList) := by
    simp only [core, String.toList_append, String.toList_ofList, toList_toString, List.append_assoc]
  have hne : core ≠ [] := by simp [core, Decimal.digits_ne_nil]
  -- Neither a sign nor a digit is a blank, so that trimming stops at them
  have hcore : ∀ c ∈ core, Text.isBlank c = false := by
    intro c hc
    simp only [core, List.mem_append, List.mem_replicate] at hc
    rcases hc with hc | ⟨-, rfl⟩ | hc
    · rcases hsign with rfl | rfl
      · exact absurd hc (by simp)
      · obtain rfl : c = '+' := by simpa using hc
        decide
    · decide
    · exact Text.isBlank_of_isDigit (List.all_eq_true.1 (Decimal.all_isDigit_digits _) c hc)
  have htrim := Text.trimChars_surrounded hne (List.all_eq_true.1 hfront) hcore
    (List.all_eq_true.1 hback)
  have hsign' : sign.toList = [] ∨ sign.toList = ['+'] := by
    rcases hsign with rfl | rfl
    · exact .inl rfl
    · exact .inr rfl
  have hread := Decimal.read?_spelled hsign' zeros n.toNat_lt
  show (((Decimal.read? UInt64.size (Text.trimChars _)).getD 0).toUInt64) = n
  rw [hchars, htrim, hread]
  simp

/-! ## Texts of integers -/

/-- The text of an integer is that of its value. -/
theorem Json.Number.compact_eq_toString {n : Number} {z : ℤ} (hn : n.IsInteger)
    (hz : n.exact = z) : (Value.number n).compact = toString z := by
  cases n with
  -- Both sides are the decimal digits, behind a sign below zero
  | unsigned n =>
    rw [Number.exact] at hz
    obtain rfl : (n.toNat : ℤ) = z := by exact_mod_cast hz
    show String.ofList (Decimal.digits n.toNat) = n.toNat.repr
    rw [Decimal.digits_eq_toDigits, Nat.repr_eq_ofList_toDigits]
  | negative n =>
    obtain rfl : Int.negSucc n.val = z := by
      rw [Number.exact] at hz
      apply Int.cast_injective (α := ℚ)
      rw [← hz]
      push_cast
      ring
    show String.ofList ('-' :: Decimal.digits (n.val + 1)) = "-" ++ (n.val + 1).repr
    rw [Decimal.digits_eq_toDigits, Nat.repr_eq_ofList_toDigits]
    apply String.toList_inj.1
    simp
  | float x => exact hn.elim

/-- An integer says something unless it is zero. -/
theorem Json.Number.isNonzero_of_isInteger {n : Number} (hn : n.IsInteger) (hz : n.exact ≠ 0) :
    n.isNonzero = true := by
  cases n with
  | unsigned n =>
    rw [Number.isNonzero, bne_iff_ne]
    rintro rfl
    exact hz (by simp [Number.exact])
  | negative n => rfl
  | float x => exact hn.elim

namespace Record

/-! ## The counts of a record -/

/-- The counts of a record, each with the keys under which it is looked for. -/
def counts : Record → List (List String × UInt64)
  | .tweet t =>
    [(aliases.retweets, t.retweets), (aliases.likes, t.likes), (aliases.replies, t.replies)]
  | .profile p =>
    [(["followersCount"], p.followers), (["followingCount"], p.following),
      (["tweetsCount"], p.tweets)]

/-- The keys of the counts of a tweet. -/
def tweetCountKeys : List (List String) := [aliases.retweets, aliases.likes, aliases.replies]

/-- The keys of the counts of a profile. -/
def profileCountKeys : List (List String) :=
  [["followersCount"], ["followingCount"], ["tweetsCount"]]

variable {fields : List (String × Value)} {username : String} {record : Record}
  {keys : List String} {count : UInt64}

/-- The counts of a tweet are looked up under their keys. -/
theorem counts_tweet {t : Tweet} (h : toTweet? fields = some t) :
    (Record.tweet t).counts = tweetCountKeys.map fun keys => (keys, countOf fields keys) := by
  unfold toTweet? at h
  dsimp only at h
  split at h
  · exact nomatch h
  · obtain rfl := Option.some.inj h
    rfl

/-- The counts of a profile are looked up under their keys. -/
theorem counts_profile (fields : List (String × Value)) (username : String) :
    (Record.profile (toProfile fields username)).counts =
      profileCountKeys.map fun keys => (keys, countOf fields keys) := rfl

/-- The counts of a record are those of its fields. -/
theorem eq_countOf (h : ofValue? (.object fields) username = some record)
    (hcount : (keys, count) ∈ record.counts) : count = countOf fields keys := by
  -- All counts of a record are looked up in the fields of the item
  have hcounts : ∃ lists : List (List String),
      record.counts = lists.map fun keys => (keys, countOf fields keys) := by
    obtain ⟨-, rfl⟩ | ⟨-, t, ht, rfl⟩ := ofValue?_cases h
    · exact ⟨_, counts_profile fields username⟩
    · exact ⟨_, counts_tweet ht⟩
  obtain ⟨lists, hlists⟩ := hcounts
  rw [hlists] at hcount
  obtain ⟨_, -, heq⟩ := List.mem_map.1 hcount
  obtain ⟨rfl, rfl⟩ := Prod.mk.inj heq
  rfl

/-- A count is made of the value that is found first. -/
theorem count_eq_asCount (h : ofValue? (.object fields) username = some record)
    (hcount : (keys, count) ∈ record.counts) {v : Value} (hv : firstPresent? fields keys = some v) :
    count = v.asCount := by
  rw [eq_countOf h hcount, countOf_eq, hv]
  rfl

/-- An id that is given as an integer other than zero is the text of this integer. -/
theorem id_eq_toString {t : Tweet} (h : ofValue? (.object fields) username = some (.tweet t))
    {before after : List String} {key : String} (hkeys : aliases.id = before ++ key :: after)
    (hpassed : Passed Value.isTruthy fields before) {n : Number} {z : ℤ}
    (hn : field? key fields = some (.number n)) (hinteger : n.IsInteger) (hz : n.exact = z)
    (hzero : z ≠ 0) : t.id = some (toString z) := by
  have hne : n.exact ≠ 0 := by
    rw [hz]
    exact_mod_cast hzero
  -- An integer other than zero is not skipped
  have hwins : Wins Value.isTruthy fields before key (.number n) :=
    ⟨hpassed, hn, Number.isNonzero_of_isInteger hinteger hne⟩
  have hchosen : firstTruthy? fields aliases.id = some (.number n) := by
    rw [hkeys]
    exact hwins.chosen?_eq after
  obtain ⟨-, hid, -⟩ := toTweet?_eq_some (toTweet?_of_ofValue? h)
  rw [hid, textOf?, hchosen, ← Number.compact_eq_toString hinteger hz]
  rfl

/-- Counts and ids are exact.

* A count that is given as a number is the exact value of this number, without its fraction and
  brought into the range of 64 bits; one that is given as a text with the digits of a number of 64
  bits is this number.
* So integers of 64 bits are exact, whether they are written as doubles or not, numbers below zero
  count as zero and numbers beyond 64 bits as the greatest count, and counts keep the order of the
  numbers.
* An id that is given as an integer of 64 bits, with a sign or without one, is the text of this
  integer, unless it is zero. -/
theorem ofValue?_exact :
    (∀ fields username record, ofValue? (.object fields) username = some record →
      ∀ keys count, (keys, count) ∈ record.counts →
        (∀ n, firstPresent? fields keys = some (.number n) → count = n.asCount ∧
          (count.toNat : ℤ) = max 0 (min (2 ^ 64 - 1) (towardZero n.exact))) ∧
        ∀ s n, firstPresent? fields keys = some (.string s) → SpellsCount s n → count = n) ∧
    (∀ n : Number,
      (∀ k : ℕ, k < 2 ^ 64 → n.exact = k → n.asCount.toNat = k) ∧
      (n.exact < 0 → n.asCount = 0) ∧
      (2 ^ 64 ≤ n.exact → n.asCount.toNat = 2 ^ 64 - 1) ∧
      ∀ m : Number, n.exact ≤ m.exact → n.asCount ≤ m.asCount) ∧
    (∀ z : ℤ, (∃ n : Number, n.IsInteger ∧ n.exact = z) ↔ -2 ^ 63 ≤ z ∧ z < 2 ^ 64) ∧
    ∀ fields username t, ofValue? (.object fields) username = some (.tweet t) →
      ∀ before key after, aliases.id = before ++ key :: after →
        Passed Value.isTruthy fields before → ∀ (n : Number) (z : ℤ),
          field? key fields = some (.number n) → n.IsInteger → n.exact = z → z ≠ 0 →
          t.id = some (toString z) := by
  refine ⟨fun fields username record h keys count hcount => ⟨fun n hn => ?_, fun s n hs hspells => ?_⟩,
    fun n => ⟨fun k => Number.asCount_of_natCast, Number.asCount_of_neg, Number.asCount_of_le,
      fun m => Number.asCount_mono⟩,
    fun z => Number.exists_isInteger_iff,
    fun fields username t h before key after hkeys hpassed n z => id_eq_toString h hkeys hpassed⟩
  -- A number counts with its exact value, brought into the range
  · have hasCount : count = n.asCount := count_eq_asCount h hcount hn
    exact ⟨hasCount, hasCount ▸ n.toNat_asCount⟩
  · rw [count_eq_asCount h hcount hs, Value.asCount_of_spellsCount hspells]

/-- A count that no double can hold, a count as a text with all that may stand around its digits,
and a negative id. -/
theorem ofValue?_exact_sample :
    let fields : List (String × Value) :=
      [("id", .number (.negative ⟨4, by decide⟩)), ("likeCount", .count 9007199254740993),
        ("replyCount", .string " +007\n"), ("text", .string "hello")]
    ∃ t, ofValue? (.object fields) "alice" = some (.tweet t) ∧
      (t.likes.toNat : ℤ) = max 0 (min (2 ^ 64 - 1) (towardZero 9007199254740993)) ∧
      t.replies = 7 ∧ t.id = some (toString (-5 : ℤ)) := by
  intro fields
  let t : Tweet := ⟨some "-5", "hello", none, 0, 9007199254740993, 7, ""⟩
  have htweet : ofValue? (.object fields) "alice" = some (.tweet t) := by decide +kernel
  obtain ⟨hcounts, -, -, hids⟩ := ofValue?_exact
  have hlikes := (hcounts fields "alice" _ htweet aliases.likes t.likes (by simp [counts])).1
    (.unsigned 9007199254740993) rfl
  have hspells : SpellsCount " +007\n" 7 := ⟨" ", "+", 2, "\n", rfl, rfl, .inr rfl, rfl⟩
  have hreplies := (hcounts fields "alice" _ htweet aliases.replies t.replies (by simp [counts])).2
    " +007\n" 7 rfl hspells
  have hid := hids fields "alice" t htweet [] "id" ["id_str"] rfl nofun
    (.negative ⟨4, by decide⟩) (-5) rfl trivial (by norm_num [Number.exact]) (by decide)
  exact ⟨t, htweet, hlikes.2, hreplies, hid⟩

end Record

end TweetHarvest
