import TweetHarvest.Archive
import TweetHarvest.Envelope
import TweetHarvest.Scrape.Options
import TweetHarvest.Service.Client

/-!
# Scraping an account

A scrape checks the options, runs an actor, and saves the dataset as a report or, on demand, as it
came.  It is told what it needs from outside as a `Machine` in any monad.

* `Machine`             network, clock, files and a place to print
* `Scrape.run`          a scrape, telling of its progress on the way
* `Scrape.execute`      a scrape with everything printed, and its exit code
-/

namespace TweetHarvest

open Json (Value)

/-- What a scrape needs from outside. -/
structure Machine (m : Type → Type) where
  send : Http.Request → m Http.Outcome
  sleep : Duration → m Unit
  now : m Instant
  files : FileSystem m
  /-- Prints a line on standard output. -/
  printLine : String → m Unit

namespace Scrape

/-- How many tweets are shown in the end. -/
def shownTweets : Nat := 5

/-- The message at the start. -/
def startMessage (r : JobRequest) : String :=
  "🐦 Scraping " ++ Decimal.text r.tweets.toNat ++ " tweets from @" ++ r.username ++ "..."

/-- The message about a run that has been started. -/
def submittedMessage (h : RunHandle) : String := "Run started: " ++ h.id

/-- The message about a check of the status. -/
def progressMessage (p : Progress) : String :=
  "Waiting... status=" ++ p.status.text ++ ", waited=" ++ Decimal.text p.waited.seconds ++ "s"

/-- A text without slashes at its end. -/
def trimSlashes (s : String) : String :=
  String.ofList (Text.dropEndWhile (· = '/') s.toList)

/-- Where a saved report can be fetched. -/
def downloadUrl (agentBaseUrl fileName : String) : String :=
  trimSlashes agentBaseUrl ++ "/reports/" ++ fileName

/-- The outcome of a scrape whose report has been saved under `path`. -/
def reportEnvelope (o : ScrapeOptions) (report : Report) (dataset : String) (path : Path) :
    Envelope :=
  let found := report.metadata.tweetsFound
  let username := report.metadata.username
  -- The path ends in the name that the report was saved under
  let fileName := (path.fileName?.map Utf8.shown).getD ""
  (Envelope.success
      ("✅ Successfully scraped " ++ Decimal.text found.toNat ++ " tweets from @" ++ username))
    |>.withField "data" (.sorted [
      ("username", .string username),
      ("profile", match report.profile with
        | none => .null
        | some p => .sorted p.fields),
      ("tweets_count", .count found),
      ("latest_tweets", .array <|
        (report.tweets.take (min found.toNat shownTweets)).map fun t => .sorted t.fields),
      ("saved_to", .string fileName),
      ("saved_to_path", .string path.text),
      ("apify_dataset_url", .string (datasetPage dataset)),
      ("download_url", .string (downloadUrl o.agentBaseUrl fileName))])

/-- The outcome of a scrape whose items have been saved under `path`. -/
def dumpEnvelope (username : String) (dump : RawDump) (path : Path) : Envelope :=
  (Envelope.success
      ("Fetched " ++ Decimal.text dump.items.length ++ " items for @" ++ username))
    |>.withField "saved_to" (.string path.text)
    |>.withField "items_count" (.nat dump.items.length)
    |>.withField "dataset_id" (.string dump.datasetId)

variable {m : Type → Type} [Monad m] (machine : Machine m)

/-- Saves the items of a dataset. -/
def save (o : ScrapeOptions) (shared : Path) (r : JobRequest) (dataset : String)
    (items : List Value) : m (Except ScrapeFault Envelope) := do
  let time ← machine.now
  let dir := Archive.directory shared
  if o.raw then
    let dump : RawDump := ⟨items, dataset⟩
    match ← Archive.saveDump machine.files dump r.username dir time with
    | .error fault => return .error (.other fault.chain)
    | .ok path => return .ok (dumpEnvelope r.username dump path)
  else
    let report := Report.ofTimeline r.username r.tweets (Timeline.ofItems items r.username) time
    match ← Archive.saveReport machine.files report dir time with
    | .error fault => return .error (.other fault.chain)
    | .ok path => return .ok (reportEnvelope o report dataset path)

/-- Tells of something only in strict mode. -/
def tellIfStrict (o : ScrapeOptions) (notify : Envelope → m Unit) (message : String) : m Unit :=
  if o.strict then notify (.processing message) else pure ()

/-- Runs the actor and saves what it has found. -/
def scrape (notify : Envelope → m Unit) (o : ScrapeOptions) (shared : Path) (s : Settings)
    (r : JobRequest) : m (Except ScrapeFault Envelope) := do
  let job : Job m :=
    { service := (Client.ofSettings s).service machine.send, policy := s.poll
      sleep := machine.sleep }
  match ← job.submit (RunInput.ofRequest s r) with
  | .error fault => return .error (.run fault)
  | .ok handle =>
    tellIfStrict o notify (submittedMessage handle)
    match ← job.wait handle.id fun p => tellIfStrict o notify (progressMessage p) with
    | .error fault => return .error (.run fault)
    | .ok finished =>
      match ← job.retrieve finished with
      | .error fault => return .error (.run fault)
      | .ok (dataset, items) =>
        -- Items that are no records do not count as missing data
        if items.isEmpty then return .error (.noData r.username)
        else save machine o shared r dataset items

/-- What follows from the options alone: the job and the settings for it. -/
def prepare (o : ScrapeOptions) (env : Environment) :
    Except ScrapeFault (JobRequest × Settings) := do
  let username ← o.handle env
  let token ← o.credential
  let settings ← o.settings token
  return (⟨username, o.tweets⟩, settings)

/-- Scrapes an account, telling of its progress on the way. -/
def run (notify : Envelope → m Unit) (env : Environment) (shared : Path) (o : ScrapeOptions) :
    m (Except ScrapeFault Envelope) := do
  match prepare o env with
  | .error fault => return .error fault
  | .ok (request, settings) =>
    -- The start is told in either mode
    notify (.processing (startMessage request))
    scrape machine notify o shared settings request

/-- The text of an envelope: on one line in strict mode. -/
def render (strict : Bool) (e : Envelope) : String := if strict then e.compact else e.pretty

/-- Scrapes an account and prints everything; the exit code shows failures in strict mode only. -/
def execute (env : Environment) (shared : Path) (o : ScrapeOptions) : m UInt8 := do
  match ← run machine (fun e => machine.printLine e.compact) env shared o with
  | .ok e =>
    machine.printLine (render o.strict e)
    return 0
  | .error fault =>
    machine.printLine (render o.strict (.error fault.message))
    return if o.strict then fault.exitCode else 0

end Scrape

end TweetHarvest
