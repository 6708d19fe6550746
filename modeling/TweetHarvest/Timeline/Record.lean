import TweetHarvest.Json.Printer
import TweetHarvest.Text.Blank
import TweetHarvest.Timeline.Tweet

/-!
# Records of a dataset

Actors disagree on the keys of their records, so every field of a tweet has a fixed list of
aliases, tried in order.  Texts take the first alias with a value that says something; counts take
the first alias that is present, whatever its value.  A record is a profile if it says so or has a
number of followers; any other record is a tweet if it has a text or an address.

* `Aliases`          the keys of each field, first choice in front
* `firstTruthy?`     the rule for texts
* `firstPresent?`    the rule for counts
* `Record.ofValue?`  the record that a JSON value stands for
-/

namespace TweetHarvest

open Json (Value Number)

/-- The keys that the fields of a tweet go by, first choice in front. -/
structure Aliases where
  text : List String
  createdAt : List String
  url : List String
  id : List String
  retweets : List String
  likes : List String
  replies : List String

/-- The keys that the supported actors use. -/
def aliases : Aliases where
  text := ["text", "full_text", "content"]
  createdAt := ["createdAt", "created_at", "date"]
  url := ["url", "tweetUrl"]
  id := ["id", "id_str"]
  retweets := ["retweetCount", "retweet_count"]
  likes := ["likeCount", "favorite_count", "like_count"]
  replies := ["replyCount", "reply_count"]

/-- The key that marks a record as a profile. -/
def profileMarker : String := "followersCount"

namespace Json

/-- Whether a number is not zero. -/
def Number.isNonzero : Number → Bool
  | .unsigned n => n != 0
  | .negative _ => true
  | .float x => !x.isZero

/-- Whether a value says something: null, false, zeros and empty texts and containers do not. -/
def Value.isTruthy : Value → Bool
  | .null => false
  | .bool b => b
  | .number n => n.isNonzero
  | .string s => s != ""
  | .array items => !items.isEmpty
  | .object fields => !fields.isEmpty

/-- A string as it is, any other value as compact JSON. -/
def Value.asText : Value → String
  | .string s => s
  | other => other.compact

/-- A number as a count: the integer part, at least zero and at most `2 ^ 64 - 1`. -/
def Number.asCount : Number → UInt64
  | .unsigned n => n
  | .negative _ => 0
  | .float x => x.truncate

/-- A value as a count: a number, or a text that holds one; anything else counts as zero. -/
def Value.asCount : Value → UInt64
  | .number n => n.asCount
  -- Digits only, so that a text with a fraction counts as zero
  | .string s => ((Decimal.read? UInt64.size (Text.trimChars s.toList)).getD 0).toUInt64
  | _ => 0

end Json

/-- The value of the first key with a value that says something. -/
def firstTruthy? (fields : List (String × Value)) (keys : List String) : Option Value :=
  (keys.filterMap fun key => Json.field? key fields).find? Value.isTruthy

/-- The value of the first key that is present. -/
def firstPresent? (fields : List (String × Value)) (keys : List String) : Option Value :=
  keys.findSome? fun key => Json.field? key fields

/-- The text of a field under the rule for texts. -/
def textOf? (fields : List (String × Value)) (keys : List String) : Option String :=
  (firstTruthy? fields keys).map Value.asText

/-- The count of a field under the rule for counts. -/
def countOf (fields : List (String × Value)) (keys : List String) : UInt64 :=
  match firstPresent? fields keys with
  | some v => v.asCount
  | none => 0

/-- The text of a key, if it holds a string. -/
def stringOf (fields : List (String × Value)) (key fallback : String) : String :=
  ((Json.field? key fields).bind Value.string?).getD fallback

/-- A record of a dataset. -/
inductive Record where
  | profile (p : Profile)
  | tweet (t : Tweet)
deriving DecidableEq, Repr

namespace Record

/-- Whether the fields are those of a profile. -/
def isProfile (fields : List (String × Value)) : Bool :=
  (Json.field? "type" fields).bind Value.string? = some "profile" ||
    (Json.field? profileMarker fields).isSome

/-- The profile that the fields describe; `username` fills in for a missing name. -/
def toProfile (fields : List (String × Value)) (username : String) : Profile where
  username := stringOf fields "username" username
  displayName := stringOf fields "name" ""
  description := stringOf fields "description" ""
  followers := countOf fields [profileMarker]
  following := countOf fields ["followingCount"]
  tweets := countOf fields ["tweetsCount"]
  verified := ((Json.field? "verified" fields).bind Value.bool?).getD false

/-- The tweet that the fields describe, if there is a text or an address. -/
def toTweet? (fields : List (String × Value)) : Option Tweet :=
  let text := (textOf? fields aliases.text).getD ""
  let url := (textOf? fields aliases.url).getD ""
  -- Without a text or an address there is nothing to show
  if text = "" ∧ url = "" then none
  else some {
    id := textOf? fields aliases.id
    text
    createdAt := textOf? fields aliases.createdAt
    retweets := countOf fields aliases.retweets
    likes := countOf fields aliases.likes
    replies := countOf fields aliases.replies
    url }

/-- The record that a value stands for; only objects stand for one. -/
def ofValue? (v : Value) (username : String) : Option Record :=
  match v with
  | .object fields =>
    -- What marks a profile wins over the fields of a tweet
    if isProfile fields then some (.profile (toProfile fields username))
    else (toTweet? fields).map .tweet
  | _ => none

end Record

end TweetHarvest
