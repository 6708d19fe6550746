import TweetHarvest.CommandLine.Grammar
import TweetHarvest.Scrape.Options

/-!
# The command line of a scrape

* `ScrapeOptions.specs`   the options, in the order in which their variables are consulted
* `ScrapeOptions.ofGiven` the options with the usual values for those that are missing
* `ScrapeOptions.parse`   a command line that consists of these options alone
-/

namespace TweetHarvest.ScrapeOptions

/-- An integer with an optional sign that is at least zero and below `limit`; a minus sign is only
of use for zero. -/
def readInteger? (limit : Nat) (s : List Char) : Option Nat :=
  match s with
  | '-' :: ds =>
    if !ds.isEmpty && ds.all Char.isDigit && Decimal.value ds = 0 then some 0 else none
  | _ => Decimal.read? limit s

/-- The number of tweets. -/
def readTweets? (text : String) : Option UInt32 :=
  (readInteger? UInt32.size text.toList).map Nat.toUInt32

/-- A number of seconds. -/
def readSeconds? (text : String) : Option UInt64 :=
  (Decimal.read? UInt64.size text.toList).map Nat.toUInt64

/-- A number of seconds that is not zero. -/
def readInterval? (text : String) : Option UInt64 :=
  (readSeconds? text).filter (· != 0)

/-- A check by a reader: what it refuses has the wrong form. -/
def formCheck (read? : String → Option α) (text : String) : Option UsageFault :=
  if (read? text).isSome then none else some .malformedValue

/-- The check of the kind of an actor. -/
def kindCheck (text : String) : Option UsageFault :=
  if (ActorKind.ofName? text).isSome then none else some .refusedValue

/-- The options of a scrape, in the order in which their variables are consulted. -/
def specs : List OptionSpec :=
  [.text "username" "username",
   (OptionSpec.value "tweets" ["tweets_count", "tweets-count"] (formCheck readTweets?)).orVariable
     "tweets_count",
   (OptionSpec.text "token" "token").orVariable "APIFY_API_TOKEN",
   (OptionSpec.value "actorKind" ["actor-kind"] kindCheck).orVariable "APIFY_ACTOR_KIND",
   (OptionSpec.text "actor" "actor-id").orVariable "APIFY_ACTOR_ID",
   { (OptionSpec.text "proxyGroups" "proxy-groups").orVariable "APIFY_PROXY_GROUPS" with
     isList := true },
   (OptionSpec.text "query" "query").orVariable "QUERY",
   (OptionSpec.text "language" "tweet-language").orVariable "TWEET_LANGUAGE",
   (OptionSpec.text "includeRetweets" "include-retweets").orVariable "INCLUDE_RETWEETS",
   (OptionSpec.text "includeReplies" "include-replies").orVariable "INCLUDE_REPLIES",
   .value "maxWait" ["max-wait"] (formCheck readSeconds?),
   .value "pollInterval" ["poll-interval"] (formCheck readInterval?),
   (OptionSpec.text "apiBaseUrl" "api-base-url").orVariable "APIFY_API_BASE_URL",
   (OptionSpec.text "agentBaseUrl" "agent-base-url").orVariable "AGENT_BASE_URL",
   .flag "strict" "strict",
   .flag "raw" "raw"]

/-- The options when nothing is given. -/
def usual : ScrapeOptions where
  username := none
  tweets := 50
  token := none
  actorKind := .search
  actor := none
  proxyGroups := []
  query := none
  language := none
  includeRetweets := none
  includeReplies := none
  maxWait := 300
  pollInterval := 5
  apiBaseUrl := "https://api.apify.com"
  agentBaseUrl := "http://localhost:8000"
  strict := false
  raw := false

/-- The options that have been given, with the usual values for those that are missing. -/
def ofGiven (g : Given) : ScrapeOptions where
  username := g.value? "username"
  tweets := ((g.value? "tweets").bind readTweets?).getD usual.tweets
  token := g.value? "token"
  actorKind := ((g.value? "actorKind").bind ActorKind.ofName?).getD usual.actorKind
  actor := g.value? "actor"
  proxyGroups := g.values "proxyGroups"
  query := g.value? "query"
  language := g.value? "language"
  includeRetweets := (g.value? "includeRetweets").map isSwitchedOn
  includeReplies := (g.value? "includeReplies").map isSwitchedOn
  maxWait := ((g.value? "maxWait").bind readSeconds?).getD usual.maxWait
  pollInterval := ((g.value? "pollInterval").bind readInterval?).getD usual.pollInterval
  apiBaseUrl := (g.value? "apiBaseUrl").getD usual.apiBaseUrl
  agentBaseUrl := (g.value? "agentBaseUrl").getD usual.agentBaseUrl
  strict := g.has "strict"
  raw := g.has "raw"

/-- A command line that consists of the options of a scrape alone. -/
def parse (env : Environment) (args : List String) : Except UsageFault ScrapeOptions := do
  let (_, given) ← Grammar.read ⟨specs, [], false⟩ env args
  return ofGiven given

end TweetHarvest.ScrapeOptions
