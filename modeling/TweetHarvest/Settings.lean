import TweetHarvest.Duration
import TweetHarvest.Url.Reader

/-!
# Settings of a scrape

What has to be known before a run can be started: the credential, where the service is, which actor
runs and with which options, and how long to wait.

* `Settings`           the settings, with `Settings.ofToken` for the usual ones
* `Settings.withActor` another actor
* `BaseUrl.read`       the address of the service
* `proxyGroups`        names from lists divided by commas
-/

namespace TweetHarvest

/-- What kind of input an actor takes. -/
inductive ActorKind where
  /-- Search terms. -/
  | search
  /-- Handles. -/
  | handles
deriving DecidableEq, Repr

/-- The actor that runs if none is named. -/
def ActorKind.defaultActor : ActorKind → String
  | .search => "apidojo~tweet-scraper"
  | .handles => "web.harvester~twitter-scraper"

/-- The name of a kind on the command line. -/
def ActorKind.name : ActorKind → String
  | .search => "search"
  | .handles => "handles"

/-- The kind with the given name. -/
def ActorKind.ofName? (name : String) : Option ActorKind :=
  [ActorKind.search, .handles].find? (·.name == name)

/-- Options of the actors that take search terms. -/
structure SearchOptions where
  query : Option String
  language : Option String
  includeRetweets : Option Bool
  includeReplies : Option Bool
deriving DecidableEq, Repr

/-- No options. -/
def SearchOptions.none : SearchOptions := ⟨.none, .none, .none, .none⟩

/-- How a run is waited for. -/
structure PollPolicy where
  /-- The time between two checks. -/
  interval : Duration
  /-- The time after which waiting is given up. -/
  maxWait : Duration
deriving DecidableEq, Repr

/-- Why a text is no address of a service. -/
inductive BaseUrl.Fault where
  | invalid (text : String) (cause : UrlFault)
  | undivided (text : String)
deriving DecidableEq, Repr

/-- The messages of a fault, the outermost first. -/
def BaseUrl.Fault.chain : BaseUrl.Fault → List String
  | .invalid text cause => ["Invalid base URL: " ++ text, cause.message]
  | .undivided text => ["Base URL cannot carry a path: " ++ text]

/-- The address of a service: a URL that can have a path. -/
def BaseUrl.read (text : String) : Except BaseUrl.Fault Url :=
  match Url.read (Text.trim text) with
  | .error cause => .error (.invalid text cause)
  | .ok url => if url.isHierarchical then .ok url else .error (.undivided text)

/-- Everything that a run needs. -/
structure Settings where
  token : String
  baseUrl : Url
  actorKind : ActorKind
  actor : String
  search : SearchOptions
  proxyGroups : List String
  poll : PollPolicy
  requestTimeout : Duration

namespace Settings

/-- The address of the service. -/
def defaultBaseUrl : Url where
  scheme := "https".toList
  authority := some (Url.Authority.ofHost (.domain "api.apify.com".toList))
  path := .segments [[]]
  query := none
  fragment := none

/-- The usual settings. -/
def ofToken (token : String) : Settings where
  token
  baseUrl := defaultBaseUrl
  actorKind := .search
  actor := ActorKind.defaultActor .search
  search := .none
  proxyGroups := []
  poll := { interval := .ofSeconds 5, maxWait := .ofSeconds 300 }
  requestTimeout := .ofSeconds 60

/-- The id of an actor as the service takes it: owner and name are divided by a tilde. -/
def actorId (text : String) : String :=
  String.ofList ((Text.trim text).toList.map fun c => if c = '/' then '~' else c)

/-- The settings with another actor; the kind's own one if none is named. -/
def withActor (s : Settings) (kind : ActorKind) (actor : Option String) : Settings :=
  { s with
    actorKind := kind
    actor := match actor.bind Text.trim? with
      | some name => actorId name
      | none => kind.defaultActor }

end Settings

/-- Whether a text switches something on. -/
def isSwitchedOn (text : String) : Bool :=
  let value := (Text.trimChars text.toList).map Char.toLower
  [['1'], "true".toList, "yes".toList].contains value

/-- The names in lists divided by commas, without blank ones. -/
def proxyGroups (lists : List String) : List String :=
  (lists.flatMap fun list => Text.splitOn ',' list.toList).filterMap fun piece =>
    let name := Text.trimChars piece
    if name.isEmpty then none else some (String.ofList name)

end TweetHarvest
