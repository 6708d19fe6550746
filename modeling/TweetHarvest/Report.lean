import TweetHarvest.Instant
import TweetHarvest.Json.Printer
import TweetHarvest.Timeline.Basic

/-!
# Reports and raw dumps

The two documents that a scrape saves: the report with the records of the dataset, and the dataset
as it came.

* `Report.ofTimeline`                 the report on a timeline
* `Report.toValue`, `Report.decoder`  its JSON form
* `Report.fileName`                   the name of its file
* `RawDump`                           the same for unprocessed items
-/

namespace TweetHarvest

open Json (Value Decoder)

/-- When and for what a report was made. -/
structure Report.Metadata where
  scrapedAt : String
  username : String
  tweetsRequested : UInt32
  tweetsFound : UInt64
deriving DecidableEq, Repr

/-- The records of one scrape. -/
structure Report where
  metadata : Report.Metadata
  profile : Option Profile
  tweets : List Tweet
deriving DecidableEq, Repr

namespace Report

/-- The metadata as JSON. -/
def Metadata.toValue (m : Metadata) : Value :=
  .object [("scraped_at", .string m.scrapedAt), ("username", .string m.username),
    ("tweets_requested", .nat m.tweetsRequested.toNat), ("tweets_found", .count m.tweetsFound)]

/-- Reads the metadata. -/
def Metadata.decoder : Decoder Metadata :=
  Json.record
    [("scraped_at", Decoder.check Decoder.string), ("username", Decoder.check Decoder.string),
     ("tweets_requested", Decoder.check Decoder.halfWord),
     ("tweets_found", Decoder.check Decoder.word)]
    fun row => do
      return {
        scrapedAt := ← row.required "scraped_at" Decoder.string
        username := ← row.required "username" Decoder.string
        tweetsRequested := ← row.required "tweets_requested" Decoder.halfWord
        tweetsFound := ← row.required "tweets_found" Decoder.word }

/-- A profile, or null. -/
def profileValue : Option Profile → Value
  | none => .null
  | some p => p.toValue

/-- A report as JSON. -/
def toValue (r : Report) : Value :=
  .object [("metadata", r.metadata.toValue), ("profile", profileValue r.profile),
    ("tweets", .array (r.tweets.map Tweet.toValue))]

/-- Reads a report. -/
def decoder : Decoder Report :=
  Json.record
    [("metadata", Decoder.check Metadata.decoder),
     ("profile", Decoder.check (Decoder.optional Profile.decoder)),
     ("tweets", Decoder.check (Decoder.list Tweet.decoder))]
    fun row => do
      return {
        metadata := ← row.required "metadata" Metadata.decoder
        profile := ← row.optional "profile" Profile.decoder
        tweets := ← row.required "tweets" (Decoder.list Tweet.decoder) }

/-- The report on a timeline; the number of tweets found is that of the tweets it holds. -/
def ofTimeline (username : String) (requested : UInt32) (timeline : Timeline) (time : Instant) :
    Report where
  metadata := {
    scrapedAt := time.rfc3339
    username
    tweetsRequested := requested
    tweetsFound := timeline.tweets.length.toUInt64 }
  profile := timeline.profile
  tweets := timeline.tweets

/-- What the names of all saved files start with. -/
def fileStem (username : String) (time : Instant) : List Char :=
  "twitter_".toList ++ username.toList ++ '_' :: time.stamp

/-- The name of the file of a report. -/
def fileName (username : String) (time : Instant) : String :=
  String.ofList (fileStem username time ++ ".json".toList)

end Report

/-- The items of a dataset as they came. -/
structure RawDump where
  items : List Value
  datasetId : String

namespace RawDump

/-- A dump as JSON. -/
def toValue (d : RawDump) : Value :=
  .object [("items", .array d.items), ("dataset_id", .string d.datasetId)]

/-- Reads a dump. -/
def decoder : Decoder RawDump :=
  Json.record
    [("items", Decoder.check (Decoder.list Decoder.any)),
     ("dataset_id", Decoder.check Decoder.string)]
    fun row => do
      return {
        items := ← row.required "items" (Decoder.list Decoder.any)
        datasetId := ← row.required "dataset_id" Decoder.string }

/-- The name of the file of a dump. -/
def fileName (username : String) (time : Instant) : String :=
  String.ofList (Report.fileStem username time ++ "_raw.json".toList)

end RawDump

end TweetHarvest
