import TweetHarvest.Json.Printer
import TweetHarvest.Settings

/-!
# The input of a run

What an actor is asked for.  The two kinds of actors take objects of different shapes, and options
that are not set are left out.

* `JobRequest`         whose tweets, and how many
* `RunInput.ofRequest` the input for the actor of some settings
* `RunInput.toValue`   its JSON form
-/

namespace TweetHarvest

open Json (Value)

/-- What to scrape. -/
structure JobRequest where
  /-- The handle without an at sign. -/
  username : String
  tweets : UInt32
deriving DecidableEq, Repr

/-- The input of a run. -/
inductive RunInput where
  | search (term : String) (maxItems : UInt32) (language : Option String)
      (includeRetweets includeReplies : Option Bool)
  | handles (handle : String) (tweets : UInt32) (proxyGroups : List String)
deriving DecidableEq, Repr

namespace RunInput

/-- The input for the actor of the settings. -/
def ofRequest (s : Settings) (r : JobRequest) : RunInput :=
  match s.actorKind with
  | .search =>
    .search (s.search.query.getD ("from:" ++ r.username)) r.tweets s.search.language
      s.search.includeRetweets s.search.includeReplies
  | .handles => .handles r.username r.tweets s.proxyGroups

/-- A field that is left out without a value. -/
def optionalField (key : String) (value : Option Value) : List (String × Value) :=
  match value with
  | none => []
  | some v => [(key, v)]

/-- The input as JSON. -/
def toValue : RunInput → Value
  | .search term maxItems language includeRetweets includeReplies =>
    .object <|
      [("searchMode", .string "live"), ("searchTerms", .array [.string term]),
        ("maxItems", .nat maxItems.toNat)] ++
      optionalField "tweetLanguage" (language.map .string) ++
      optionalField "includeRetweets" (includeRetweets.map .bool) ++
      optionalField "includeReplies" (includeReplies.map .bool)
  | .handles handle tweets proxyGroups =>
    let groups := proxyGroups.map Value.string
    .object
      [("handles", .array [.string handle]), ("userQueries", .array []),
        ("tweetsDesired", .nat tweets.toNat), ("profilesDesired", .nat 1),
        ("proxyConfig", .object <|
          ("useApifyProxy", .bool true) ::
            optionalField "apifyProxyGroups"
              (if groups.isEmpty then none else some (.array groups)))]

end RunInput

end TweetHarvest
