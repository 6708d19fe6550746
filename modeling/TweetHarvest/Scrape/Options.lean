import TweetHarvest.Environment
import TweetHarvest.Run.Fault
import TweetHarvest.Settings
import TweetHarvest.Username

/-!
# Options of a scrape

What the user asks for, and what follows from it: whose tweets, with which credential, under which
settings.

* `ScrapeOptions`            the options
* `ScrapeFault`              why a scrape fails, with wording and exit code
* `ScrapeOptions.handle`, `.credential`, `.settings`
-/

namespace TweetHarvest

/-- What the user asks for. -/
structure ScrapeOptions where
  username : Option String
  tweets : UInt32
  token : Option String
  actorKind : ActorKind
  actor : Option String
  proxyGroups : List String
  query : Option String
  language : Option String
  includeRetweets : Option Bool
  includeReplies : Option Bool
  /-- Seconds to wait for the run. -/
  maxWait : UInt64
  /-- Seconds between status checks. -/
  pollInterval : UInt64
  apiBaseUrl : String
  agentBaseUrl : String
  /-- Everything on single lines, the form of the token checked, failures shown by exit codes. -/
  strict : Bool
  /-- Save the items as they came. -/
  raw : Bool
deriving DecidableEq, Repr

/-- Why a scrape fails. -/
inductive ScrapeFault where
  | missingUsername
  | invalidUsername (cause : Username.Fault)
  | missingCredential
  | invalidCredential
  | noData (username : String)
  | run (cause : RunFault)
  /-- Anything else, as messages from the outermost to the innermost cause. -/
  | other (chain : List String)
deriving DecidableEq, Repr

namespace ScrapeFault

/-- The messages of a chain on one line. -/
def joinChain : List String → String
  | [] => ""
  | [last] => last
  | outer :: rest => outer ++ ": " ++ joinChain rest

/-- The wording of a fault. -/
def message : ScrapeFault → String
  | .missingUsername =>
    "No username provided. Use --username parameter or set env var " ++
      "'username'/'USERNAME'/'TWITTER_USERNAME'."
  | .invalidUsername cause => cause.message
  | .missingCredential => "APIFY_API_TOKEN environment variable not set"
  | .invalidCredential => "Missing/invalid APIFY token"
  | .noData username =>
    "No data found for username @" ++ username ++ ". Check if the username exists and is public."
  | .run cause => "Error scraping Twitter data: " ++ cause.message
  | .other chain => "Error scraping Twitter data: " ++ joinChain chain

/-- The exit code in strict mode: 1 for what the user has to put right, 2 for an account without
data, 3 for all else. -/
def exitCode : ScrapeFault → UInt8
  | .missingUsername | .invalidUsername _ | .missingCredential | .invalidCredential => 1
  | .noData _ => 2
  | .run _ | .other _ => 3

end ScrapeFault

namespace ScrapeOptions

/-- The variables that may name the account, in the order in which they are consulted. -/
def usernameVariables : List String := ["username", "USERNAME", "TWITTER_USERNAME"]

/-- What the tokens of the service start with. -/
def tokenStart : String := "apify_api_"

/-- The handle of the account: the option, or else the first variable that is not blank. -/
def handle (o : ScrapeOptions) (env : Environment) : Except ScrapeFault String :=
  match (o.username.filter (!Text.isAllBlank ·)).or (env.first? usernameVariables) with
  | none => .error .missingUsername
  | some text => (Username.read text).mapError .invalidUsername

/-- The credential without blanks around it; strict mode checks how it starts. -/
def credential (o : ScrapeOptions) : Except ScrapeFault String :=
  match o.token.bind Text.trim? with
  | none => .error .missingCredential
  | some token =>
    if o.strict && !tokenStart.toList.isPrefixOf token.toList then .error .invalidCredential
    else .ok token

/-- The settings for a credential. -/
def settings (o : ScrapeOptions) (token : String) : Except ScrapeFault Settings :=
  match BaseUrl.read o.apiBaseUrl with
  | .error fault => .error (.other fault.chain)
  | .ok baseUrl =>
    .ok { (Settings.ofToken token).withActor o.actorKind o.actor with
      baseUrl
      search := {
        query := o.query.bind Text.trim?
        language := o.language.bind Text.trim?
        includeRetweets := o.includeRetweets
        includeReplies := o.includeReplies }
      proxyGroups := TweetHarvest.proxyGroups o.proxyGroups
      poll := {
        interval := .ofSeconds o.pollInterval.toNat
        maxWait := .ofSeconds o.maxWait.toNat } }

end ScrapeOptions

end TweetHarvest
