import TweetHarvest.Json.Decoder

/-!
# Tweets and profiles

The two kinds of records that a report holds, with their JSON form.

* `Tweet.toValue`, `Tweet.decoder`      fields in a fixed order; `id` and `created_at` may be null
* `Profile.toValue`, `Profile.decoder`  fields in a fixed order
-/

namespace TweetHarvest

open Json (Value Decoder)

/-- A tweet. -/
structure Tweet where
  id : Option String
  text : String
  createdAt : Option String
  retweets : UInt64
  likes : UInt64
  replies : UInt64
  url : String
deriving DecidableEq, Repr

/-- The account that tweets belong to. -/
structure Profile where
  username : String
  displayName : String
  description : String
  followers : UInt64
  following : UInt64
  tweets : UInt64
  verified : Bool
deriving DecidableEq, Repr

/-- A 64-bit count as JSON. -/
def Json.Value.count (n : UInt64) : Value := .number (.unsigned n)

/-- The fields of a tweet. -/
def Tweet.fields (t : Tweet) : List (String × Value) :=
  [("id", .optionalString t.id), ("text", .string t.text),
   ("created_at", .optionalString t.createdAt), ("retweet_count", .count t.retweets),
   ("like_count", .count t.likes), ("reply_count", .count t.replies), ("url", .string t.url)]

/-- A tweet as JSON. -/
def Tweet.toValue (t : Tweet) : Value := .object t.fields

/-- Reads a tweet. -/
def Tweet.decoder : Decoder Tweet :=
  let count := Decoder.check Decoder.word
  let string := Decoder.check Decoder.string
  let optionalString := Decoder.check (Decoder.optional Decoder.string)
  Json.record
    [("id", optionalString), ("text", string), ("created_at", optionalString),
     ("retweet_count", count), ("like_count", count), ("reply_count", count), ("url", string)]
    fun row => do
      return {
        id := ← row.optional "id" Decoder.string
        text := ← row.required "text" Decoder.string
        createdAt := ← row.optional "created_at" Decoder.string
        retweets := ← row.required "retweet_count" Decoder.word
        likes := ← row.required "like_count" Decoder.word
        replies := ← row.required "reply_count" Decoder.word
        url := ← row.required "url" Decoder.string }

/-- The fields of a profile. -/
def Profile.fields (p : Profile) : List (String × Value) :=
  [("username", .string p.username), ("display_name", .string p.displayName),
   ("description", .string p.description), ("followers_count", .count p.followers),
   ("following_count", .count p.following), ("tweets_count", .count p.tweets),
   ("verified", .bool p.verified)]

/-- A profile as JSON. -/
def Profile.toValue (p : Profile) : Value := .object p.fields

/-- Reads a profile. -/
def Profile.decoder : Decoder Profile :=
  let count := Decoder.check Decoder.word
  let string := Decoder.check Decoder.string
  Json.record
    [("username", string), ("display_name", string), ("description", string),
     ("followers_count", count), ("following_count", count), ("tweets_count", count),
     ("verified", Decoder.check Decoder.bool)]
    fun row => do
      return {
        username := ← row.required "username" Decoder.string
        displayName := ← row.required "display_name" Decoder.string
        description := ← row.required "description" Decoder.string
        followers := ← row.required "followers_count" Decoder.word
        following := ← row.required "following_count" Decoder.word
        tweets := ← row.required "tweets_count" Decoder.word
        verified := ← row.required "verified" Decoder.bool }

end TweetHarvest
