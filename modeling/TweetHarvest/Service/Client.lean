import TweetHarvest.Run.Job
import TweetHarvest.Service.Http

/-!
# The service over HTTP

Every operation is one request with the token of the user.  A reply counts only if its status is
one of success and its body decodes; all else is a message for the phase that asked.

* `Client`           where the service is and which actor runs
* `Client.endpoint`  the URL of a resource below the base URL
* `Client.service`   the operations, given a way to send requests
-/

namespace TweetHarvest

open Json (Value Decoder)

/-- Access to the service. -/
structure Client where
  token : String
  baseUrl : Url
  actor : String

namespace Client

/-- The client for some settings. -/
def ofSettings (s : Settings) : Client := ⟨s.token, s.baseUrl, s.actor⟩

/-- The URL of a resource: its names are the last segments of the path. -/
def endpoint (c : Client) (names : List String) : Url := c.baseUrl.extend names

/-- The names that lead to the runs of the actor. -/
def runsPath (c : Client) : List String := ["v2", "acts", c.actor, "runs"]

/-- The names that lead to a run. -/
def runPath (c : Client) (run : String) : List String := c.runsPath ++ [run]

/-- The names that lead to the items of a dataset. -/
def itemsPath (dataset : String) : List String := ["v2", "datasets", dataset, "items"]

/-- The request that starts a run. -/
def startRequest (c : Client) (input : RunInput) : Http.Request :=
  ⟨.post, c.endpoint c.runsPath, c.token, some input.toValue.compact⟩

/-- The request for the state of a run. -/
def statusRequest (c : Client) (run : String) : Http.Request :=
  ⟨.get, c.endpoint (c.runPath run), c.token, none⟩

/-- The request for the items of a dataset. -/
def itemsRequest (c : Client) (dataset : String) : Http.Request :=
  ⟨.get, c.endpoint (itemsPath dataset), c.token, none⟩

/-- How much of the body of a failed request is shown. -/
def shownBodyLength : Nat := 500

/-- The symbols of a body in the syntax of JSON.  An octet that belongs to no character becomes the
escape of a lone surrogate: a reader takes it where it passes over a string, and nowhere else.
Behind a backslash that would be taken for an escaped one, and a character that cannot be escaped
stands for the octet. -/
def jsonSymbols (escaped : Bool) : List (Option Char) → List Char
  | [] => []
  | some c :: rest => c :: jsonSymbols (c = '\\' && !escaped) rest
  | none :: rest =>
    (if escaped then [Utf8.replacement] else "\\udc80".toList) ++ jsonSymbols false rest

/-- Decodes the body of a response. -/
def decodeBody (d : Decoder α) (body : ByteArray) : Except Json.Fault α :=
  Json.decodeChars d (jsonSymbols false (Utf8.pieces body.data.toList))

/-- What a response means: a decoded body, or a message. -/
def interpret (d : Decoder α) : Http.Outcome → Except String α
  | .failed fault => .error ("network error: " ++ fault.message)
  | .response status body =>
    if Http.isSuccess status then
      match decodeBody d body with
      | .ok value => .ok value
      | .error _ => .error "invalid response body: error decoding response body"
    else
      -- Cut by characters, so that none is cut in two
      let shown := String.ofList ((Http.bodyText body).take shownBodyLength)
      .error ("HTTP " ++ Decimal.text status ++ " " ++ shown)

variable {m : Type → Type} [Monad m]

/-- Sends a request, unless it cannot be made, and decodes the reply. -/
def execute (send : Http.Request → m Http.Outcome) (request : Http.Request) (d : Decoder α) :
    m (Except String α) :=
  match request.fault? with
  | some fault => return interpret d (.failed fault)
  | none => return interpret d (← send request)

/-- The operations of the service. -/
def service (c : Client) (send : Http.Request → m Http.Outcome) : Service m where
  start input := do
    let reply ← execute send (c.startRequest input) RunHandle.replyDecoder
    return reply.mapError (.submission c.actor)
  status run := do
    let reply ← execute send (c.statusRequest run) RunHandle.replyDecoder
    return reply.mapError (.statusCheck run)
  items dataset := do
    let reply ← execute send (c.itemsRequest dataset) (Decoder.list Decoder.any)
    return reply.mapError fun message => .retrieval ("dataset " ++ dataset ++ ": " ++ message)

end Client

/-- The page of a dataset in the console of the service. -/
def datasetPage (dataset : String) : String :=
  "https://console.apify.com/storage/datasets/" ++ dataset

/-- The client for the usual actor at the given address. -/
def Client.ofToken (token baseUrl : String) : Except BaseUrl.Fault Client := do
  let url ← BaseUrl.read baseUrl
  return .ofSettings { Settings.ofToken token with baseUrl := url }

end TweetHarvest
