import TweetHarvest.Proofs.Outcome
import TweetHarvest.Proofs.Url.Adding
import TweetHarvest.Scrape.World

/-!
# Exchanges with the service in a world

The requests that have been sent in a world, each with its answer, and what the operations of the
service do there: a request that can be written down is sent and its answer interpreted, and nothing
else changes.

## Key results

- `World.exchanges_sent`: sending adds one exchange at the end
- `Client.run_start`, `Client.run_status`, `Client.run_items`: the operations in a world
- `Client.status_fault?_eq_none_iff`, `Client.items_fault?_eq_none_iff`: all requests of a client can
  be sent, or none
-/

namespace TweetHarvest

open Json (Value Decoder)

/-- A request that has been sent, and its answer. -/
structure Exchange where
  request : Http.Request
  answer : Http.Outcome

namespace Exchange

/-- What the answer says of a run. -/
def handle (e : Exchange) : Except String RunHandle :=
  Client.interpret RunHandle.replyDecoder e.answer

/-- What the answer says of a dataset. -/
def items (e : Exchange) : Except String (List Value) :=
  Client.interpret (Decoder.list Decoder.any) e.answer

end Exchange

namespace World

/-- The answer that a request would get next. -/
def answerTo (w : World) (r : Http.Request) : Http.Outcome := w.reply w.requests.length r

/-- The world after one more request. -/
def sent (w : World) (r : Http.Request) : World := { w with requests := r :: w.requests }

/-- The exchanges that have led to the requests, the last of which stands in front. -/
def exchangesOf (reply : Nat → Http.Request → Http.Outcome) : List Http.Request → List Exchange
  | [] => []
  | r :: earlier => exchangesOf reply earlier ++ [⟨r, reply earlier.length r⟩]

/-- The exchanges so far, in order. -/
def exchanges (w : World) : List Exchange := exchangesOf w.reply w.requests

/-- Nothing has been exchanged at the start. -/
@[simp] theorem exchanges_start (reply : Nat → Http.Request → Http.Outcome) (time : Instant)
    (disk : Disk) : (start reply time disk).exchanges = [] := rfl

/-- Sending adds one exchange at the end. -/
@[simp] theorem exchanges_sent (w : World) (r : Http.Request) :
    (w.sent r).exchanges = w.exchanges ++ [⟨r, w.answerTo r⟩] := rfl

/-- What comes of `w` by exchanges, prints and naps: the peer, the clock and the disk stay. -/
structure SameSurroundings (w w' : World) : Prop where
  reply : w'.reply = w.reply
  time : w'.time = w.time
  disk : w'.disk = w.disk

/-- What comes of `w` by prints and naps alone. -/
structure Silent (w w' : World) : Prop extends SameSurroundings w w' where
  requests : w'.requests = w.requests

/-- Surroundings that stay the same twice are the same in the end. -/
theorem SameSurroundings.trans {w₁ w₂ w₃ : World} (h : SameSurroundings w₁ w₂)
    (h' : SameSurroundings w₂ w₃) : SameSurroundings w₁ w₃ :=
  ⟨h'.reply.trans h.reply, h'.time.trans h.time, h'.disk.trans h.disk⟩

/-- A request changes nothing but the list of requests. -/
theorem sameSurroundings_sent (w : World) (r : Http.Request) : SameSurroundings w (w.sent r) :=
  ⟨rfl, rfl, rfl⟩

/-- A world that stays as it is has been silent. -/
theorem Silent.refl (w : World) : Silent w w := ⟨⟨rfl, rfl, rfl⟩, rfl⟩

/-- Two silences make a longer one. -/
theorem Silent.trans {w₁ w₂ w₃ : World} (h : Silent w₁ w₂) (h' : Silent w₂ w₃) : Silent w₁ w₃ :=
  ⟨h.toSameSurroundings.trans h'.toSameSurroundings, h'.requests.trans h.requests⟩

/-- Sleep is silent. -/
theorem silent_slept (w : World) (d : Duration) : Silent w { w with slept := d } :=
  ⟨⟨rfl, rfl, rfl⟩, rfl⟩

/-- Prints and naps add no exchange. -/
theorem Silent.exchanges_eq {w w' : World} (h : Silent w w') : w'.exchanges = w.exchanges := by
  simp only [exchanges, h.reply, h.requests]

/-- The world after some more lines. -/
def printed (w : World) (lines : List String) : World :=
  { w with lines := lines.reverse ++ w.lines }

/-- Lines are printed without a request. -/
theorem silent_printed (w : World) (lines : List String) : Silent w (w.printed lines) :=
  ⟨⟨rfl, rfl, rfl⟩, rfl⟩

/-- What comes of `w` by printing these lines, whatever else is done. -/
def Prints (w w' : World) (lines : List String) : Prop := w'.lines = lines.reverse ++ w.lines

/-- A world that stays as it is has printed no lines. -/
theorem Prints.refl (w : World) : Prints w w [] := rfl

/-- What is printed later comes behind what has been printed before. -/
theorem Prints.trans {w₁ w₂ w₃ : World} {lines lines' : List String} (h : Prints w₁ w₂ lines)
    (h' : Prints w₂ w₃ lines') : Prints w₁ w₃ (lines ++ lines') := by
  rw [Prints, h', h, List.reverse_append, List.append_assoc]

/-- What is done without printing between two worlds does not matter for the lines. -/
theorem Prints.congr {w₁ w₂ w₁' w₂' : World} {lines : List String} (h : Prints w₁ w₂ lines)
    (h₁ : w₁'.lines = w₁.lines) (h₂ : w₂'.lines = w₂.lines) : Prints w₁' w₂' lines := by
  rw [Prints, h₁, h₂, h]

/-- The lines that are printed are all that is printed. -/
theorem prints_printed (w : World) (lines : List String) : Prints w (w.printed lines) lines := rfl

end World

namespace Client

/-! ## Requests that can be sent -/

/-- Endpoints have the scheme of the base, whatever names are added to it. -/
@[simp] theorem endpoint_scheme (c : Client) (names : List String) :
    (c.endpoint names).scheme = c.baseUrl.scheme := by
  rw [endpoint, Url.extend_eq]

/-- Endpoints are on the host of the base, whatever names are added to it. -/
@[simp] theorem endpoint_hostText? (c : Client) (names : List String) :
    (c.endpoint names).hostText? = c.baseUrl.hostText? := by
  rw [endpoint, Url.extend_eq]
  rfl

/-- A client can send requests if its address has a host under HTTP and its token fits into a
header. -/
def Able (c : Client) : Prop :=
  c.baseUrl.hostText?.isSome = true ∧ c.token.toList.all Http.isHeaderChar = true ∧
    Http.isHttpScheme c.baseUrl.scheme = true

/-- Whether a request can be sent depends only on the client. -/
private theorem fault?_eq_none_iff (c : Client) (names : List String) (method : Http.Method)
    (body : Option String) :
    (Http.Request.mk method (c.endpoint names) c.token body).fault? = none ↔ c.Able := by
  simp only [Http.Request.fault?, endpoint_scheme, endpoint_hostText?, Able]
  cases c.baseUrl.hostText? <;> cases c.token.toList.all Http.isHeaderChar <;>
    cases Http.isHttpScheme c.baseUrl.scheme <;> simp

/-- A client that can send requests at all can send the one that starts a run. -/
theorem start_fault?_eq_none_iff (c : Client) (input : RunInput) :
    (c.startRequest input).fault? = none ↔ c.Able :=
  c.fault?_eq_none_iff _ _ _

/-- A client that can send requests at all can ask for the status of a run. -/
theorem status_fault?_eq_none_iff (c : Client) (run : String) :
    (c.statusRequest run).fault? = none ↔ c.Able :=
  c.fault?_eq_none_iff _ _ _

/-- A client that can send requests at all can ask for the items of a dataset. -/
theorem items_fault?_eq_none_iff (c : Client) (dataset : String) :
    (c.itemsRequest dataset).fault? = none ↔ c.Able :=
  c.fault?_eq_none_iff _ _ _

/-! ## The operations in a world -/

/-- A request that can be written down is sent, and its answer is interpreted. -/
private theorem run_execute (r : Http.Request) (d : Decoder α) (w : World) :
    (execute World.send r d).run w =
      match r.fault? with
      | some fault => (interpret d (.failed fault), w)
      | none => (interpret d (w.answerTo r), w.sent r) := by
  simp only [execute]
  cases r.fault? <;> rfl

/-- Starting a run, if the client can send requests. -/
theorem run_start {c : Client} (h : c.Able) (input : RunInput) (w : World) :
    ((c.service World.send).start input).run w =
      ((Exchange.mk (c.startRequest input) (w.answerTo (c.startRequest input))).handle.mapError
        (.submission c.actor), w.sent (c.startRequest input)) := by
  show StateT.run (execute World.send (c.startRequest input) RunHandle.replyDecoder >>= _) w = _
  rw [StateT.run_bind, run_execute, (c.start_fault?_eq_none_iff input).2 h]
  rfl

/-- Starting a run, if the client cannot send requests. -/
theorem run_start_of_not_able {c : Client} (h : ¬ c.Able) (input : RunInput) (w : World) :
    ∃ fault : Http.Fault, ((c.service World.send).start input).run w =
      (.error (.submission c.actor ("network error: " ++ fault.message)), w) := by
  obtain ⟨fault, hfault⟩ := Option.ne_none_iff_exists'.1
    (mt (c.start_fault?_eq_none_iff input).1 h)
  refine ⟨fault, ?_⟩
  show StateT.run (execute World.send (c.startRequest input) RunHandle.replyDecoder >>= _) w = _
  rw [StateT.run_bind, run_execute, hfault]
  rfl

/-- Checking the status of a run. -/
theorem run_status {c : Client} (h : c.Able) (run : String) (w : World) :
    ((c.service World.send).status run).run w =
      ((Exchange.mk (c.statusRequest run) (w.answerTo (c.statusRequest run))).handle.mapError
        (.statusCheck run), w.sent (c.statusRequest run)) := by
  show StateT.run (execute World.send (c.statusRequest run) RunHandle.replyDecoder >>= _) w = _
  rw [StateT.run_bind, run_execute, (c.status_fault?_eq_none_iff run).2 h]
  rfl

/-- A failure to fetch a dataset. -/
def itemsFault (dataset message : String) : RunFault :=
  .retrieval ("dataset " ++ dataset ++ ": " ++ message)

/-- Fetching a dataset. -/
theorem run_items {c : Client} (h : c.Able) (dataset : String) (w : World) :
    ((c.service World.send).items dataset).run w =
      ((Exchange.mk (c.itemsRequest dataset) (w.answerTo (c.itemsRequest dataset))).items.mapError
        (itemsFault dataset), w.sent (c.itemsRequest dataset)) := by
  show StateT.run (execute World.send (c.itemsRequest dataset) _ >>= _) w = _
  rw [StateT.run_bind, run_execute, (c.items_fault?_eq_none_iff dataset).2 h]
  rfl

end Client

end TweetHarvest
