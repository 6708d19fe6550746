import TweetHarvest.Proofs.Run.PollLoop
import TweetHarvest.Proofs.Scrape.Exchanges

/-!
# The protocol of a scrape

A scrape asks the service for a run, checks that run until it has ended or the time is up, and
fetches the dataset of the run.  Without the saving at its end it is a sequence of three phases, and
each of them is told here by the exchanges that it adds to those before.

## Key results

- `Scrape.scrape_eq`: a scrape collects the items and saves them
- `Scrape.Asks`, `Scrape.Obeys`: what is asked, and what follows from the answers
- `Scrape.wait_waited`, `Scrape.retrieve_retrieved`: the phases in a world
- `Scrape.asks_of_waited`, `Scrape.obeys_of_waited`: the phases keep to the protocol
-/

namespace TweetHarvest

open Json (Value)

namespace Scrape

/-! ## A scrape without saving -/

section Collect

variable {m : Type → Type} [Monad m] (machine : Machine m)

/-- The job of a scrape. -/
def job (s : Settings) : Job m where
  service := (Client.ofSettings s).service machine.send
  policy := s.poll
  sleep := machine.sleep

/-- Waits for a run and fetches its dataset. -/
def harvest (tell : Progress → m Unit) (s : Settings) (run : String) :
    m (Except RunFault (String × List Value)) := do
  match ← (job machine s).wait run tell with
  | .error fault => return .error fault
  | .ok finished => (job machine s).retrieve finished

/-- What comes of fetching a dataset: there has to be something in it. -/
def harvested (username : String) :
    Except RunFault (String × List Value) → Except ScrapeFault (String × List Value)
  | .error fault => .error (.run fault)
  | .ok (dataset, items) =>
    if items.isEmpty then .error (.noData username) else .ok (dataset, items)

/-- Runs the actor and fetches what it has found: the dataset and its items. -/
def collect (notify : Envelope → m Unit) (o : ScrapeOptions) (s : Settings) (r : JobRequest) :
    m (Except ScrapeFault (String × List Value)) := do
  match ← (job machine s).submit (RunInput.ofRequest s r) with
  | .error fault => return .error (.run fault)
  | .ok handle =>
    tellIfStrict o notify (submittedMessage handle)
    let found ← harvest machine (fun p => tellIfStrict o notify (progressMessage p)) s handle.id
    return harvested r.username found

/-- A scrape collects the items and saves them. -/
theorem scrape_eq [LawfulMonad m] (notify : Envelope → m Unit) (o : ScrapeOptions) (shared : Path)
    (s : Settings) (r : JobRequest) :
    scrape machine notify o shared s r = (do
      match ← collect machine notify o s r with
      | .error fault => return .error fault
      | .ok (dataset, items) => save machine o shared r dataset items) := by
  simp only [scrape, collect, harvest, bind_assoc]
  congr 1
  funext submitted
  -- A fault of any step leaves both sides with that fault
  cases submitted with
  | error fault => simp
  | ok handle =>
    simp only [bind_assoc]
    congr 1
    funext _
    congr 1
    funext finished
    cases finished with
    | error fault => simp [harvested]
    | ok finished =>
      dsimp only
      congr 1
      funext retrieved
      rcases retrieved with fault | ⟨dataset, items⟩
      · simp [harvested]
      · cases items <;> simp [harvested]

end Collect

/-! ## The protocol -/

/-- The only answer so far has started the run. -/
def Started (start : List Exchange) (run : String) : Prop :=
  ∃ first handle, start = [first] ∧ first.handle = .ok handle ∧ run = handle.id

/-- The last check has shown success, and this dataset. -/
def Succeeded (checks : List Exchange) (dataset : String) : Prop :=
  ∃ last handle, checks.getLast? = some last ∧ last.handle = .ok handle ∧
    handle.status = .succeeded ∧ handle.datasetId = some dataset ∧ dataset ≠ ""

/-- What is asked: for a run, then for the state of that run, then for the dataset of that run. -/
structure Asks (c : Client) (input : RunInput) (start checks fetch : List Exchange) : Prop where
  start_once : start.length ≤ 1
  start_request : ∀ e ∈ start, e.request = c.startRequest input
  check_request : ∀ e ∈ checks, ∃ run, Started start run ∧ e.request = c.statusRequest run
  fetch_once : fetch.length ≤ 1
  fetch_request : ∀ e ∈ fetch, ∃ dataset, Succeeded checks dataset ∧
    e.request = c.itemsRequest dataset

/-- What follows from the answers: which of them is the last one, and what comes of the scrape. -/
structure Obeys (c : Client) (p : PollPolicy) (start checks fetch : List Exchange)
    (result : Except ScrapeFault α) : Prop where
  /-- No request for a run is sent only if none can be. -/
  unsent : start = [] →
    ¬ c.Able ∧ ∃ message, result = .error (.run (.submission c.actor message))
  start_failed : ∀ e ∈ start, ∀ message, e.handle = .error message →
    checks = [] ∧ fetch = [] ∧ result = .error (.run (.submission c.actor message))
  start_answered : ∀ e ∈ start, ∀ handle, e.handle = .ok handle → checks ≠ []
  check_failed : ∀ before e after message, checks = before ++ e :: after →
    e.handle = .error message →
    after = [] ∧ fetch = [] ∧ ∃ run, Started start run ∧
      result = .error (.run (.statusCheck run message))
  check_final : ∀ before e after handle, checks = before ++ e :: after →
    e.handle = .ok handle → handle.status.isTerminal = true → after = []
  ended : ∀ e handle, checks.getLast? = some e → e.handle = .ok handle →
    handle.status.isTerminal = true → handle.status ≠ .succeeded →
    fetch = [] ∧ ∃ run, Started start run ∧
      result = .error (.run (.runFinished run handle.status))
  timed_out : ∀ e handle, checks.getLast? = some e → e.handle = .ok handle →
    handle.status.isTerminal = false →
    checks.length = p.lastCheck + 1 ∧ fetch = [] ∧ ∃ run, Started start run ∧
      result = .error (.run (.pollTimeout run p.maxWait.seconds handle.status))
  no_dataset : ∀ e handle, checks.getLast? = some e → e.handle = .ok handle →
    handle.status = .succeeded → (handle.datasetId = none ∨ handle.datasetId = some "") →
    fetch = [] ∧
      result = .error (.run (.retrieval ("No dataset id returned for run " ++ handle.id)))
  dataset : ∀ dataset, Succeeded checks dataset → fetch ≠ []
  fetch_failed : ∀ e ∈ fetch, ∀ message, e.items = .error message →
    ∃ dataset, Succeeded checks dataset ∧
      result = .error (.run (Client.itemsFault dataset message))
  fetch_answered : ∀ e ∈ fetch, ∀ items, e.items = .ok items →
    ∀ fault, result ≠ .error (.run fault)

/-! ## The phases -/

section Phases

variable {c : Client} {p : PollPolicy} {run : String}

/-- The exchanges between two worlds are checks of a run. -/
structure Checked (c : Client) (run : String) (w w' : World) (checks : List Exchange) : Prop where
  same : World.SameSurroundings w w'
  exchanges : w'.exchanges = w.exchanges ++ checks
  request : ∀ e ∈ checks, e.request = c.statusRequest run

/-- An answer that leaves open what comes of the run. -/
def IsOpen (e : Exchange) : Prop :=
  ∃ handle, e.handle = .ok handle ∧ handle.status.isTerminal = false

/-- What has been told of checks: the status in every answer, and how long has been waited. -/
def progressOn (p : PollPolicy) (run : String) (checks : List Exchange) : List Progress :=
  checks.zipIdx.filterMap fun (e, k) =>
    e.handle.toOption.map fun handle => ⟨run, handle.status, p.waitedBefore k⟩

/-- A further check is reported behind those before it, if it has been answered. -/
theorem progressOn_concat (p : PollPolicy) (run : String) (before : List Exchange) (e : Exchange) :
    progressOn p run (before ++ [e]) = progressOn p run before ++
      (e.handle.toOption.map fun handle =>
        (⟨run, handle.status, p.waitedBefore before.length⟩ : Progress)).toList := by
  simp only [progressOn, List.zipIdx_append, List.filterMap_append, List.zipIdx_singleton,
    List.filterMap_cons, List.filterMap_nil, Nat.zero_add]
  cases e.handle.toOption <;> rfl

/-- What the last check comes to, after `k` others. -/
def Decides (p : PollPolicy) (run : String) (k : Nat) (e : Exchange)
    (outcome : Except RunFault RunHandle) : Prop :=
  match e.handle with
  | .error message => outcome = .error (.statusCheck run message)
  | .ok handle => p.verdict? run (p.waitedBefore k) handle = some outcome

/-- A check that fails decides on an error. -/
theorem decides_of_error {e : Exchange} {message : String} (h : e.handle = .error message)
    (k : Nat) (outcome : Except RunFault RunHandle) :
    Decides p run k e outcome ↔ outcome = .error (.statusCheck run message) := by
  simp only [Decides, h]

/-- A check that is answered decides on what the policy says about the handle. -/
theorem decides_of_ok {e : Exchange} {handle : RunHandle} (h : e.handle = .ok handle)
    (k : Nat) (outcome : Except RunFault RunHandle) :
    Decides p run k e outcome ↔ p.verdict? run (p.waitedBefore k) handle = some outcome := by
  simp only [Decides, h]

/-- Checks of a run that all but the last leave things open. -/
structure Waited (c : Client) (p : PollPolicy) (run : String) (w : World)
    (outcome : Except RunFault RunHandle) (w' : World) (before : List Exchange)
    (last : Exchange) : Prop where
  checked : Checked c run w w' (before ++ [last])
  isOpen : ∀ e ∈ before, IsOpen e
  inTime : before.length ≤ p.lastCheck
  decides : Decides p run before.length last outcome

/-- One more check in a world. -/
theorem Checked.check {w w' w'' : World} {checks : List Exchange} (h : Checked c run w w' checks)
    (hquiet : World.Silent (w'.sent (c.statusRequest run)) w'') :
    Checked c run w w''
      (checks ++ [⟨c.statusRequest run, w'.answerTo (c.statusRequest run)⟩]) := by
  refine ⟨h.same.trans ((w'.sameSurroundings_sent _).trans hquiet.toSameSurroundings), ?_, ?_⟩
  · rw [hquiet.exchanges_eq, World.exchanges_sent, h.exchanges, List.append_assoc]
  · intro e he
    rcases List.mem_append.1 he with he | he
    · exact h.request e he
    · rw [List.mem_singleton.1 he]

/-- One more check prints what is told of its answer. -/
theorem prints_check {lines : Progress → List String} {w w' w'' : World} {before : List Exchange}
    (h : World.Prints w w' ((progressOn p run before).flatMap lines)) (e : Exchange)
    (hlines : World.Prints w' w'' ((e.handle.toOption.map fun handle =>
      (⟨run, handle.status, p.waitedBefore before.length⟩ : Progress)).toList.flatMap lines)) :
    World.Prints w w'' ((progressOn p run (before ++ [e])).flatMap lines) := by
  rw [progressOn_concat, List.flatMap_append]
  exact h.trans hlines

/-- Waiting in a world: the checks, and what the last of them comes to. -/
theorem wait_waited (here : Location) {s : Settings} (hable : (Client.ofSettings s).Able)
    (run : String) {tell : Progress → StateM World Unit} {lines : Progress → List String}
    (htell : ∀ p w, ((tell p).run w).2 = w.printed (lines p)) (w : World) :
    ∃ before last, Waited (Client.ofSettings s) s.poll run w
      (((job (World.machine here) s).wait run tell).run w).1
      (((job (World.machine here) s).wait run tell).run w).2 before last ∧
      World.Prints w (((job (World.machine here) s).wait run tell).run w).2
        ((progressOn s.poll run (before ++ [last])).flatMap lines) := by
  let j := job (World.machine here) s
  let c := Client.ofSettings s
  let asked := c.statusRequest run
  have hstatus : ∀ w', (j.service.status run).run w' =
      ((Exchange.mk asked (w'.answerTo asked)).handle.mapError (.statusCheck run),
        w'.sent asked) := Client.run_status hable run
  have hsilent : ∀ p w, World.Silent w ((tell p).run w).2 := fun p w =>
    htell p w ▸ w.silent_printed _
  -- An answer is told at once, and nothing else is
  have hanswered : ∀ {w' : World} {before : List Exchange} {handle : RunHandle},
      World.Prints w w' ((progressOn s.poll run before).flatMap lines) →
      (Exchange.mk asked (w'.answerTo asked)).handle = .ok handle →
      World.Prints w ((tell ⟨run, handle.status, s.poll.waitedBefore before.length⟩).run
          (w'.sent asked)).2
        ((progressOn s.poll run (before ++ [⟨asked, w'.answerTo asked⟩])).flatMap lines) := by
    intro w' before handle hprints hok
    refine prints_check hprints _ ?_
    rw [hok, htell]
    show World.Prints w' _ (lines _ ++ [])
    rw [List.append_nil]
    exact (World.prints_printed (w'.sent asked) _).congr rfl rfl
  -- Before the check number `k` there have been `k` checks, and all of them have left things open.
  refine j.wait_induction run tell
    (P := fun k w' => ∃ before, Checked c run w w' before ∧ before.length = k ∧
      (∀ e ∈ before, IsOpen e) ∧ k ≤ s.poll.lastCheck ∧
      World.Prints w w' ((progressOn s.poll run before).flatMap lines))
    (Q := fun outcome w' => ∃ before last, Waited c s.poll run w outcome w' before last ∧
      World.Prints w w' ((progressOn s.poll run (before ++ [last])).flatMap lines))
    ?failed ?decided ?undecided ?start
  case failed =>
    rintro k w' fault w₁ ⟨before, hchecked, rfl, hopen, htime, hprints⟩ hs
    rw [hstatus] at hs
    obtain ⟨ha, rfl⟩ := Prod.mk.inj hs
    obtain ⟨message, hm, rfl⟩ := mapError_eq_error_iff.1 ha
    refine ⟨before, _, ⟨hchecked.check (.refl _), hopen, htime, (decides_of_error hm _ _).2 rfl⟩,
      prints_check hprints _ ?_⟩
    rw [hm]
    exact (World.Prints.refl w').congr rfl rfl
  case decided =>
    rintro k w' handle w₁ outcome ⟨before, hchecked, rfl, hopen, htime, hprints⟩ hs hv
    rw [hstatus] at hs
    obtain ⟨ha, rfl⟩ := Prod.mk.inj hs
    have hok := mapError_eq_ok_iff.1 ha
    exact ⟨before, _, ⟨hchecked.check (hsilent _ _), hopen, htime, (decides_of_ok hok _ _).2 hv⟩,
      hanswered hprints hok⟩
  case undecided =>
    rintro k w' handle w₁ ⟨before, hchecked, rfl, hopen, htime, hprints⟩ hs hv
    rw [hstatus] at hs
    obtain ⟨ha, rfl⟩ := Prod.mk.inj hs
    have hok := mapError_eq_ok_iff.1 ha
    obtain ⟨hstatus, hlt⟩ := (s.poll.verdict?_waitedBefore_eq_none_iff run _ handle).1 hv
    refine ⟨_, hchecked.check ?_, by simp, ?_, hlt, (hanswered hprints hok).congr rfl rfl⟩
    · exact (hsilent _ _).trans (World.silent_slept _ _)
    · intro e he
      rcases List.mem_append.1 he with he | he
      · exact hopen e he
      · rw [List.mem_singleton.1 he]
        exact ⟨handle, hok, hstatus⟩
  case start =>
    exact ⟨[], ⟨(World.Silent.refl w).toSameSurroundings, by simp, by simp⟩, rfl, by simp, by simp,
      .refl w⟩

/-- What comes of the wait if the last check has an answer. -/
theorem Waited.outcome_of_ok {w w' : World} {outcome : Except RunFault RunHandle}
    {before : List Exchange} {last : Exchange} {handle : RunHandle}
    (h : Waited c p run w outcome w' before last) (hlast : last.handle = .ok handle) :
    (handle.status = .succeeded ∧ outcome = .ok handle) ∨
    (handle.status.isTerminal = true ∧ handle.status ≠ .succeeded ∧
      outcome = .error (.runFinished run handle.status)) ∨
    (handle.status.isTerminal = false ∧ before.length = p.lastCheck ∧
      outcome = .error (.pollTimeout run p.maxWait.seconds handle.status)) := by
  have hdecides := (decides_of_ok hlast _ _).1 h.decides
  by_cases hterminal : handle.status.isTerminal = true
  · simp only [PollPolicy.verdict?, hterminal, if_true, Option.some.injEq] at hdecides
    by_cases hsucceeded : handle.status = .succeeded
    · rw [if_pos hsucceeded] at hdecides
      exact .inl ⟨hsucceeded, hdecides.symm⟩
    · rw [if_neg hsucceeded] at hdecides
      exact .inr (.inl ⟨hterminal, hsucceeded, hdecides.symm⟩)
  -- A status that may still change decides only when the time is up
  · have hopen : handle.status.isTerminal = false := by simpa using hterminal
    obtain ⟨hlength, houtcome⟩ := PollPolicy.eq_lastCheck_of_verdict? h.inTime hopen hdecides
    exact .inr (.inr ⟨hopen, hlength, houtcome⟩)

/-- Among checks that all but the last leave things open, one that does not is the last. -/
theorem eq_last_of_not_isOpen {before checked after : List Exchange} {last e : Exchange}
    (hopen : ∀ e ∈ before, IsOpen e) (hsplit : before ++ [last] = checked ++ e :: after)
    (he : ¬ IsOpen e) : after = [] ∧ e = last := by
  rcases List.eq_nil_or_concat after with rfl | ⟨front, final, rfl⟩
  -- Either nothing comes after it, or it stands among those before the last
  · have := List.append_inj' hsplit rfl
    simp_all
  · rw [List.concat_eq_append, ← List.cons_append, ← List.append_assoc] at hsplit
    obtain ⟨hbefore, -⟩ := List.append_inj' hsplit rfl
    exact absurd (hopen e (hbefore ▸ by simp)) he

/-- What comes of a finished run, and the exchange that fetches its dataset. -/
structure Retrieved (c : Client) (waited : Except RunFault RunHandle) (fetch : List Exchange)
    (result : Except RunFault (String × List Value)) : Prop where
  of_error : ∀ fault, waited = .error fault → fetch = [] ∧ result = .error fault
  of_none : ∀ handle, waited = .ok handle → handle.dataset? = none → fetch = [] ∧
    result = .error (.retrieval ("No dataset id returned for run " ++ handle.id))
  of_some : ∀ handle dataset, waited = .ok handle → handle.dataset? = some dataset →
    ∃ e, fetch = [e] ∧ e.request = c.itemsRequest dataset ∧
      result = (e.items.mapError (Client.itemsFault dataset)).map (dataset, ·)

/-- A run has a dataset if its identifier is there and is not empty. -/
theorem dataset?_eq_some_iff {handle : RunHandle} {dataset : String} :
    handle.dataset? = some dataset ↔ handle.datasetId = some dataset ∧ dataset ≠ "" := by
  simp [RunHandle.dataset?, Option.filter_eq_some_iff]

/-- A run has no dataset if its identifier is missing or empty. -/
theorem dataset?_eq_none_iff {handle : RunHandle} :
    handle.dataset? = none ↔ handle.datasetId = none ∨ handle.datasetId = some "" := by
  cases h : handle.datasetId <;> simp [RunHandle.dataset?, h]

/-- Fetching the dataset of a finished run in a world. -/
theorem retrieve_retrieved (here : Location) {s : Settings} (hable : (Client.ofSettings s).Able)
    (finished : RunHandle) (w : World) :
    ∃ fetch,
      (((job (World.machine here) s).retrieve finished).run w).2.exchanges =
        w.exchanges ++ fetch ∧
      World.SameSurroundings w (((job (World.machine here) s).retrieve finished).run w).2 ∧
      (((job (World.machine here) s).retrieve finished).run w).2.lines = w.lines ∧
      Retrieved (Client.ofSettings s) (.ok finished) fetch
        (((job (World.machine here) s).retrieve finished).run w).1 := by
  let c := Client.ofSettings s
  cases hd : finished.dataset? with
  -- Without a dataset, nothing is sent
  | none =>
    simp only [Job.retrieve, hd]
    refine ⟨[], (List.append_nil _).symm, (World.Silent.refl w).toSameSurroundings, rfl, ?_, ?_,
      ?_⟩
    · exact fun _ h => nomatch h
    · rintro handle ⟨rfl⟩ -
      exact ⟨rfl, rfl⟩
    · rintro handle dataset ⟨rfl⟩ hsome
      rw [hd] at hsome
      exact nomatch hsome
  | some dataset =>
    let asked := c.itemsRequest dataset
    let e : Exchange := ⟨asked, w.answerTo asked⟩
    -- Otherwise there is the one exchange `e`, and its answer is the outcome
    have hrun : ((job (World.machine here) s).retrieve finished).run w =
        ((e.items.mapError (Client.itemsFault dataset)).map (dataset, ·), w.sent asked) := by
      have hitems : ((job (World.machine here) s).service.items dataset).run w =
          (e.items.mapError (Client.itemsFault dataset), w.sent asked) :=
        Client.run_items hable dataset w
      simp only [Job.retrieve, hd, StateT.run_bind, hitems]
      cases e.items <;> rfl
    rw [hrun]
    refine ⟨[e], w.exchanges_sent asked, w.sameSurroundings_sent asked, rfl, ?_, ?_, ?_⟩
    · exact fun _ h => nomatch h
    · rintro handle ⟨rfl⟩ hnone
      rw [hd] at hnone
      exact nomatch hnone
    · rintro handle dataset' ⟨rfl⟩ hsome
      rw [hd] at hsome
      cases hsome
      exact ⟨e, rfl, rfl, rfl⟩

/-- Waiting for a run and fetching its dataset in a world. -/
theorem harvest_waited (here : Location) {s : Settings} (hable : (Client.ofSettings s).Able)
    (run : String) {tell : Progress → StateM World Unit} {lines : Progress → List String}
    (htell : ∀ p w, ((tell p).run w).2 = w.printed (lines p)) (w : World) :
    ∃ before last fetch outcome w₁,
      Waited (Client.ofSettings s) s.poll run w outcome w₁ before last ∧
      World.SameSurroundings w₁ ((harvest (World.machine here) tell s run).run w).2 ∧
      ((harvest (World.machine here) tell s run).run w).2.exchanges = w₁.exchanges ++ fetch ∧
      World.Prints w ((harvest (World.machine here) tell s run).run w).2
        ((progressOn s.poll run (before ++ [last])).flatMap lines) ∧
      Retrieved (Client.ofSettings s) outcome fetch
        ((harvest (World.machine here) tell s run).run w).1 := by
  obtain ⟨before, last, hw, hprints⟩ := wait_waited here hable run htell w
  rcases hwait : ((job (World.machine here) s).wait run tell).run w with ⟨outcome, w₁⟩
  rw [hwait] at hw hprints
  cases outcome with
  -- A wait that has failed is the end: nothing is fetched
  | error fault =>
    have hrun : (harvest (World.machine here) tell s run).run w = (.error fault, w₁) := by
      simp only [harvest, StateT.run_bind]
      rw [hwait]
      rfl
    rw [hrun]
    refine ⟨before, last, [], _, w₁, hw, (World.Silent.refl _).toSameSurroundings, by simp, hprints,
      ?_, ?_, ?_⟩
    · rintro _ ⟨rfl⟩
      exact ⟨rfl, rfl⟩
    · intro _ h
      cases h
    · intro _ _ h
      cases h
  | ok finished =>
    have hrun : (harvest (World.machine here) tell s run).run w =
        ((job (World.machine here) s).retrieve finished).run w₁ := by
      simp only [harvest, StateT.run_bind]
      rw [hwait]
      rfl
    rw [hrun]
    obtain ⟨fetch, hexchanges, hsame, hlines, hr⟩ := retrieve_retrieved here hable finished w₁
    exact ⟨before, last, fetch, _, w₁, hw, hsame, hexchanges, hprints.congr rfl hlines, hr⟩

/-! ## The phases together -/

variable {α : Type} {w w' : World} {first last : Exchange} {handle : RunHandle}
  {before fetch : List Exchange} {outcome : Except RunFault RunHandle}
  {retrieved : Except RunFault (String × List Value)} {result : Except ScrapeFault α}

/-- A scrape ends like the retrieval of its dataset, as far as faults of the run go. -/
def EndsLike (retrieved : Except RunFault (String × List Value))
    (result : Except ScrapeFault α) : Prop :=
  match retrieved with
  | .error fault => result = .error (.run fault)
  | .ok _ => ∀ fault, result ≠ .error (.run fault)

/-- What is made of the items ends with a fault of the run only if their retrieval has. -/
theorem endsLike_harvested (username : String)
    (retrieved : Except RunFault (String × List Value)) :
    EndsLike retrieved (harvested username retrieved) := by
  rcases retrieved with fault | ⟨dataset, items⟩
  · rfl
  · intro fault
    cases items <;> simp [harvested]

/-- Something has been found if items have been retrieved, and there is at least one. -/
theorem harvested_eq_ok_iff {username dataset : String} {items : List Value} :
    harvested username retrieved = .ok (dataset, items) ↔
      retrieved = .ok (dataset, items) ∧ items ≠ [] := by
  rcases retrieved with fault | ⟨found, served⟩
  · simp [harvested]
  · cases served with
    -- An empty dataset has been retrieved, but counts as a fault
    | nil =>
      simp only [harvested, List.isEmpty_nil, if_true]
      constructor
      · exact fun h => nomatch h
      · rintro ⟨⟨rfl⟩, hne⟩
        exact absurd rfl hne
    | cons item rest =>
      simp only [harvested, List.isEmpty_cons]
      constructor
      · rintro ⟨rfl⟩
        exact ⟨rfl, by simp⟩
      · rintro ⟨⟨rfl⟩, -⟩
        rfl

/-- The last check has shown success, with a dataset. -/
private theorem succeeded_concat_iff {dataset : String} (h : last.handle = .ok handle) :
    Succeeded (before ++ [last]) dataset ↔
      handle.status = .succeeded ∧ handle.dataset? = some dataset := by
  rw [dataset?_eq_some_iff]
  constructor
  -- The last check and its answer are the ones given
  · rintro ⟨e, found, he, hfound, hstatus, hd, hne⟩
    rw [List.getLast?_concat, Option.some.injEq] at he
    subst he
    rw [h] at hfound
    cases hfound
    exact ⟨hstatus, hd, hne⟩
  · rintro ⟨hstatus, hd, hne⟩
    exact ⟨last, handle, List.getLast?_concat, h, hstatus, hd, hne⟩

/-- If there is an exchange for a dataset, the last check has shown success. -/
theorem Retrieved.last_of_mem (hw : Waited c p run w outcome w' before last)
    (hr : Retrieved c outcome fetch retrieved) {e : Exchange} (he : e ∈ fetch) :
    ∃ finished dataset, last.handle = .ok finished ∧ finished.status = .succeeded ∧
      finished.dataset? = some dataset ∧ fetch = [e] ∧ e.request = c.itemsRequest dataset ∧
      retrieved = (e.items.mapError (Client.itemsFault dataset)).map (dataset, ·) := by
  -- A fault of the wait ends the scrape before anything is fetched
  have hnot : ∀ fault, outcome ≠ .error fault := by
    intro fault houtcome
    rw [(hr.of_error fault houtcome).1] at he
    exact nomatch he
  cases hlast : last.handle with
  | error message => exact absurd ((decides_of_error hlast _ _).1 hw.decides) (hnot _)
  | ok finished =>
    -- Of the three ways to end the wait only success leads on
    rcases hw.outcome_of_ok hlast with ⟨hstatus, h⟩ | ⟨-, -, h⟩ | ⟨-, -, h⟩
    · cases hd : finished.dataset? with
      | none =>
        rw [(hr.of_none finished h hd).1] at he
        exact nomatch he
      | some dataset =>
        obtain ⟨e', rfl, hrequest, hresult⟩ := hr.of_some finished dataset h hd
        obtain rfl := List.mem_singleton.1 he
        exact ⟨finished, dataset, rfl, hstatus, hd, rfl, hrequest, hresult⟩
    · exact absurd h (hnot _)
    · exact absurd h (hnot _)

/-- A dataset that has been retrieved is the answer in the only exchange for one. -/
theorem Retrieved.of_ok {dataset : String} {items : List Value}
    (hr : Retrieved c outcome fetch retrieved) (hok : retrieved = .ok (dataset, items)) :
    ∃ e, fetch = [e] ∧ e.request = c.itemsRequest dataset ∧ e.items = .ok items := by
  subst hok
  cases outcome with
  -- Each of the other outcomes of the wait leaves a fault
  | error fault => exact nomatch (hr.of_error fault rfl).2
  | ok finished =>
    cases hd : finished.dataset? with
    | none => exact nomatch (hr.of_none finished rfl hd).2
    | some found =>
      obtain ⟨e, hfetch, hrequest, hresult⟩ := hr.of_some finished found rfl hd
      cases hitems : e.items with
      | error message =>
        rw [hitems] at hresult
        exact nomatch hresult
      | ok served =>
        rw [hitems] at hresult
        cases hresult
        exact ⟨e, hfetch, hrequest, hitems⟩

/-- What is asked in a scrape whose run has been started. -/
theorem asks_of_waited {input : RunInput} (hfirst : first.request = c.startRequest input)
    (hstart : first.handle = .ok handle)
    (hw : Waited c p handle.id w outcome w' before last)
    (hr : Retrieved c outcome fetch retrieved) : Asks c input [first] (before ++ [last]) fetch where
  start_once := Nat.le_refl 1
  start_request := by
    intro e he
    rwa [List.mem_singleton.1 he]
  check_request := by
    intro e he
    exact ⟨handle.id, ⟨first, handle, rfl, hstart, rfl⟩, hw.checked.request e he⟩
  fetch_once := by
    cases fetch with
    | nil => simp
    | cons e rest =>
      obtain ⟨_, _, -, -, -, hfetch, -⟩ := hr.last_of_mem hw (List.mem_cons_self ..)
      simp [hfetch]
  fetch_request := by
    intro e he
    obtain ⟨finished, dataset, hlast, hstatus, hd, -, hrequest, -⟩ := hr.last_of_mem hw he
    exact ⟨dataset, (succeeded_concat_iff hlast).2 ⟨hstatus, hd⟩, hrequest⟩

/-- What follows from the answers in a scrape whose run has been started. -/
theorem obeys_of_waited (hstart : first.handle = .ok handle)
    (hw : Waited c p handle.id w outcome w' before last)
    (hr : Retrieved c outcome fetch retrieved) (hends : EndsLike retrieved result) :
    Obeys c p [first] (before ++ [last]) fetch result := by
  have hstarted : Started [first] handle.id := ⟨first, handle, rfl, hstart, rfl⟩
  have hfailed : ∀ fault, outcome = .error fault → fetch = [] ∧ result = .error (.run fault) := by
    intro fault houtcome
    obtain ⟨hfetch, rfl⟩ := hr.of_error fault houtcome
    exact ⟨hfetch, hends⟩
  -- The answers decide at the last check only; the others have left things open
  have hlastEq : ∀ e, (before ++ [last]).getLast? = some e → e = last := by
    intro e he
    rw [List.getLast?_concat, Option.some.injEq] at he
    exact he.symm
  refine ⟨?unsent, ?start_failed, ?start_answered, ?check_failed, ?check_final, ?ended, ?timed_out,
    ?no_dataset, ?dataset, ?fetch_failed, ?fetch_answered⟩
  case unsent => exact fun h => nomatch h
  case start_failed =>
    intro e he message hm
    rw [List.mem_singleton.1 he, hstart] at hm
    exact nomatch hm
  case start_answered => exact fun _ _ _ _ => by simp
  case check_failed =>
    intro front e after message hsplit hm
    have hclosed : ¬ IsOpen e := by
      rintro ⟨_, hok, -⟩
      rw [hm] at hok
      exact nomatch hok
    obtain ⟨hafter, rfl⟩ := eq_last_of_not_isOpen hw.isOpen hsplit hclosed
    have houtcome := (decides_of_error hm _ _).1 hw.decides
    obtain ⟨hfetch, hresult⟩ := hfailed _ houtcome
    exact ⟨hafter, hfetch, _, hstarted, hresult⟩
  case check_final =>
    intro front e after found hsplit hok hterminal
    have hclosed : ¬ IsOpen e := by
      rintro ⟨found', hok', hopen⟩
      rw [hok] at hok'
      cases hok'
      rw [hterminal] at hopen
      exact nomatch hopen
    exact (eq_last_of_not_isOpen hw.isOpen hsplit hclosed).1
  case ended =>
    intro e found he hok hterminal hsucceeded
    obtain rfl := hlastEq e he
    rcases hw.outcome_of_ok hok with ⟨h, -⟩ | ⟨-, -, h⟩ | ⟨h, -⟩
    · exact absurd h hsucceeded
    · obtain ⟨hfetch, hresult⟩ := hfailed _ h
      exact ⟨hfetch, _, hstarted, hresult⟩
    · rw [hterminal] at h
      exact nomatch h
  case timed_out =>
    intro e found he hok hopen
    obtain rfl := hlastEq e he
    rcases hw.outcome_of_ok hok with ⟨h, -⟩ | ⟨h, -⟩ | ⟨-, hlength, h⟩
    · rw [h] at hopen
      exact nomatch hopen
    · rw [hopen] at h
      exact nomatch h
    · obtain ⟨hfetch, hresult⟩ := hfailed _ h
      exact ⟨by simp [hlength], hfetch, _, hstarted, hresult⟩
  case no_dataset =>
    intro e found he hok hsucceeded hnone
    obtain rfl := hlastEq e he
    rcases hw.outcome_of_ok hok with ⟨-, h⟩ | ⟨-, h, -⟩ | ⟨h, -⟩
    · obtain ⟨hfetch, rfl⟩ := hr.of_none found h (dataset?_eq_none_iff.2 hnone)
      exact ⟨hfetch, hends⟩
    · exact absurd hsucceeded h
    · rw [hsucceeded] at h
      exact nomatch h
  case dataset =>
    rintro dataset ⟨e, found, he, hok, hsucceeded, hd⟩
    obtain rfl := hlastEq e he
    rcases hw.outcome_of_ok hok with ⟨-, h⟩ | ⟨-, h, -⟩ | ⟨h, -⟩
    · obtain ⟨_, rfl, -⟩ := hr.of_some found dataset h (dataset?_eq_some_iff.2 hd)
      simp
    · exact absurd hsucceeded h
    · rw [hsucceeded] at h
      exact nomatch h
  case fetch_failed =>
    intro e he message hm
    obtain ⟨finished, dataset, hlast, hstatus, hd, -, -, rfl⟩ := hr.last_of_mem hw he
    rw [hm] at hends
    exact ⟨dataset, (succeeded_concat_iff hlast).2 ⟨hstatus, hd⟩, hends⟩
  case fetch_answered =>
    intro e he items hitems
    obtain ⟨_, dataset, -, -, -, -, -, rfl⟩ := hr.last_of_mem hw he
    rw [hitems] at hends
    exact hends

/-- What is asked in a scrape that sends no more than the request for a run. -/
theorem asks_of_unstarted {input : RunInput} {start : List Exchange} (hlength : start.length ≤ 1)
    (hrequest : ∀ e ∈ start, e.request = c.startRequest input) : Asks c input start [] [] :=
  ⟨hlength, hrequest, by simp, by simp, by simp⟩

/-- What follows if the request for a run has failed or cannot be sent. -/
theorem obeys_of_unstarted {start : List Exchange} {message : String}
    (hunable : start = [] → ¬ c.Able) (hfailed : ∀ e ∈ start, e.handle = .error message) :
    Obeys c p start [] []
      (.error (.run (.submission c.actor message)) : Except ScrapeFault α) := by
  -- Without checks and a dataset, only the answer to the start is left to speak of
  refine ⟨fun hnone => ⟨hunable hnone, message, rfl⟩, ?_, ?_, ?_, ?_, by simp, by simp, by simp, ?_,
    by simp, by simp⟩
  · intro e he m hm
    rw [hfailed e he] at hm
    cases hm
    exact ⟨rfl, rfl, rfl⟩
  · intro e he found hok
    rw [hfailed e he] at hok
    exact nomatch hok
  · intro front e after m hsplit
    simp at hsplit
  · intro front e after found hsplit
    simp at hsplit
  · rintro dataset ⟨e, _, he, -⟩
    simp at he

end Phases

end Scrape

end TweetHarvest
