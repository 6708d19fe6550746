import TweetHarvest.Proofs.Run.Simulation
import TweetHarvest.Proofs.Scrape.Requests

/-!
# The pipeline of a scrape and that of a job

A scrape submits, waits and retrieves on its own, because it tells of its progress in between.  Here
a journal is kept of what is done to a backend and what is told of it.  The journal of a scrape is
that of `Job.run`, told in the words of the scrape.

## Key results

- `Scrape.scrape_eq_pursue`: the part of a scrape up to the dataset works for any job
- `Scrape.seenAs_pursue`: it is `Job.run`, told in other words
- `Scrape.pipelines_agree`: the calls, the progress and the outcome of both
-/

namespace TweetHarvest

open Json (Value)

/-! ## Journals -/

/-- What happens while a job is run. -/
inductive Event where
  | started (input : RunInput) (answer : Except RunFault RunHandle)
  | checked (run : String) (answer : Except RunFault RunHandle)
  | fetched (dataset : String) (answer : Except RunFault (List Value))
  | slept (d : Duration)
  /-- Progress has been told by the job. -/
  | progress (p : Progress)
  /-- Something has been told by the scrape. -/
  | notice (e : Envelope)

/-- Whether the backend has been called. -/
def Event.isCall : Event → Bool
  | .started .. | .checked .. | .fetched .. => true
  | .slept _ | .progress _ | .notice _ => false

/-- A backend, and what has happened so far. -/
structure Journal (σ : Type) where
  backend : σ
  events : List Event

namespace Journal

variable {σ α : Type}

/-- Enters an event. -/
def note (e : Event) : StateM (Journal σ) Unit :=
  modify fun j => { j with events := j.events ++ [e] }

/-- Does something to the backend and enters it. -/
def recording (op : StateM σ α) (event : α → Event) : StateM (Journal σ) α := fun j =>
  let (a, backend) := op.run j.backend
  (a, ⟨backend, j.events ++ [event a]⟩)

/-- An operation that is recorded does what it does, and its event is noted. -/
theorem run_recording (op : StateM σ α) (event : α → Event) (j : Journal σ) :
    (recording op event).run j = ((op.run j.backend).1,
      ⟨(op.run j.backend).2, j.events ++ [event (op.run j.backend).1]⟩) := rfl

/-- A job whose calls are entered. -/
def job (backend : Service (StateM σ)) (sleep : Duration → StateM σ Unit) (policy : PollPolicy) :
    Job (StateM (Journal σ)) where
  service := {
    start input := recording (backend.start input) (.started input)
    status run := recording (backend.status run) (.checked run)
    items dataset := recording (backend.items dataset) (.fetched dataset) }
  policy
  sleep d := recording (sleep d) fun _ => .slept d

end Journal

namespace Scrape

/-! ## The part of a scrape up to the dataset -/

section Pursue

variable {m : Type → Type} [Monad m]

/-- Submits, and tells of the run that has been started. -/
def submitTelling (j : Job m) (notify : Envelope → m Unit) (o : ScrapeOptions) (input : RunInput) :
    m (Except RunFault RunHandle) := do
  match ← j.submit input with
  | .error fault => return .error fault
  | .ok handle =>
    tellIfStrict o notify (submittedMessage handle)
    return .ok handle

/-- A run that has been started is told of, and one that has not is not. -/
theorem run_submitTelling {σ : Type} (j : Job (StateM σ)) (notify : Envelope → StateM σ Unit)
    (o : ScrapeOptions) (input : RunInput) (s : σ) :
    (submitTelling j notify o input).run s =
      match (j.submit input).run s with
      | (.error fault, s₁) => (.error fault, s₁)
      | (.ok handle, s₁) =>
        (.ok handle, ((tellIfStrict o notify (submittedMessage handle)).run s₁).2) := by
  rw [submitTelling, StateT.run_bind]
  rcases (j.submit input).run s with ⟨_ | _, s₁⟩ <;> rfl

/-- Submits, waits and retrieves as a scrape does, for any job. -/
def pursue (j : Job m) (notify : Envelope → m Unit) (o : ScrapeOptions) (input : RunInput) :
    m (Except RunFault (String × List Value)) := do
  match ← submitTelling j notify o input with
  | .error fault => return .error fault
  | .ok handle =>
    match ← j.wait handle.id fun p => tellIfStrict o notify (progressMessage p) with
    | .error fault => return .error fault
    | .ok finished => j.retrieve finished

/-- A scrape pursues its own job and saves what it has found, if there is anything. -/
theorem scrape_eq_pursue [LawfulMonad m] (machine : Machine m) (notify : Envelope → m Unit)
    (o : ScrapeOptions) (shared : Path) (s : Settings) (r : JobRequest) :
    scrape machine notify o shared s r = (do
      match harvested r.username (← pursue (job machine s) notify o (RunInput.ofRequest s r)) with
      | .error fault => return .error fault
      | .ok (dataset, items) => save machine o shared r dataset items) := by
  rw [scrape_eq]
  simp only [collect, pursue, submitTelling, bind_assoc]
  refine bind_congr fun submitted => ?_
  cases submitted with
  | error fault => simp [harvested]
  | ok handle =>
    simp only [bind_assoc, pure_bind]
    -- What is left are two ways to put the phases of the harvest together
    exact bind_congr fun _ => bind_assoc ..

/-- Saves the report on a timeline. -/
def saveTimeline (machine : Machine m) (o : ScrapeOptions) (shared : Path) (r : JobRequest)
    (dataset : String) (timeline : Timeline) : m (Except ScrapeFault Envelope) := do
  let time ← machine.now
  let report := Report.ofTimeline r.username r.tweets timeline time
  match ← Archive.saveReport machine.files report (Archive.directory shared) time with
  | .error fault => return .error (.other fault.chain)
  | .ok path => return .ok (reportEnvelope o report dataset path)

/-- What is reported on the items of a run is the timeline of the run. -/
theorem save_outcome (machine : Machine m) {o : ScrapeOptions} (hraw : o.raw = false)
    (shared : Path) (r : JobRequest) (outcome : RunOutcome) :
    save machine o shared r outcome.dataset outcome.items =
      saveTimeline machine o shared r outcome.dataset (outcome.timeline r.username) := by
  simp only [save, hraw, Bool.false_eq_true, if_false]
  rfl

end Pursue

/-! ## The two journals -/

section Agreement

variable {σ α : Type} (o : ScrapeOptions)

/-- What is entered where something is told in strict mode only. -/
def told (message : String) : List Event :=
  if o.strict then [.notice (.processing message)] else []

/-- What a scrape enters where `Job.run` enters an event: the progress is told as a notice, and the
start of a run is told as well, both in strict mode only. -/
def retold : Event → List Event
  | .started input answer =>
    .started input answer :: match answer with
      | .ok handle => told o (submittedMessage handle)
      | .error _ => []
  | .progress p => told o (progressMessage p)
  | e => [e]

/-- The journal in the words of a scrape. -/
def inWords (j : Journal σ) : Journal σ := { j with events := j.events.flatMap (retold o) }

/-- A further event is retold behind those before it. -/
theorem inWords_concat (b : σ) (events : List Event) (e : Event) :
    inWords o ⟨b, events ++ [e]⟩ = ⟨b, events.flatMap (retold o) ++ retold o e⟩ := by
  rw [inWords, List.flatMap_append, List.flatMap_singleton]

/-- Tells as a notice, in strict mode. -/
def announce (message : String) : StateM (Journal σ) Unit :=
  tellIfStrict o (fun e => Journal.note (.notice e)) message

/-- Of an announcement nothing is left but what is told. -/
theorem run_announce (message : String) (j : Journal σ) :
    (announce o message).run j = ((), ⟨j.backend, j.events ++ told o message⟩) := by
  unfold announce tellIfStrict told
  split
  · rfl
  · rw [List.append_nil]
    rfl

/-- An operation is seen as itself if its event is retold as itself. -/
theorem seenAs_recording (op : StateM σ α) (event : α → Event)
    (h : ∀ a, retold o (event a) = [event a]) :
    SeenAs (inWords o) (Journal.recording op event) (Journal.recording op event) := by
  intro j
  rw [Journal.run_recording, Journal.run_recording, inWords_concat, h]
  rfl

/-- The progress of a run is told as a notice. -/
theorem seenAs_progress (p : Progress) :
    SeenAs (inWords o) (Journal.note (.progress p) : StateM (Journal σ) Unit)
      (announce o (progressMessage p)) := by
  intro j
  rw [run_announce]
  exact congrArg (Prod.mk ()) (inWords_concat o j.backend j.events (.progress p)).symm

section Pipelines

variable (backend : Service (StateM σ)) (sleep : Duration → StateM σ Unit) (policy : PollPolicy)
  (input : RunInput)

/-- A run that has been started is told of at once. -/
theorem seenAs_submit :
    SeenAs (inWords o) ((Journal.job backend sleep policy).submit input)
      (submitTelling (Journal.job backend sleep policy) (fun e => Journal.note (.notice e)) o
        input) := by
  intro j
  have hsubmit := Journal.run_recording (backend.start input) (.started input)
  change ∀ j, ((Journal.job backend sleep policy).submit input).run j = _ at hsubmit
  rw [run_submitTelling, hsubmit, hsubmit, inWords_concat,
    show (inWords o j).backend = j.backend from rfl]
  -- The answer of the backend may be any, as both ask it in the same state
  generalize (backend.start input).run j.backend = started
  obtain ⟨fault | handle, b⟩ := started
  · rfl
  · show (_, ((announce o (submittedMessage handle)).run _).2) = (_, _)
    rw [run_announce, List.append_assoc]
    rfl

/-- The part of a scrape up to the dataset is `Job.run`, told in other words. -/
theorem seenAs_pursue :
    let j := Journal.job backend sleep policy
    SeenAs (inWords o)
      (do return (← j.run input fun p => Journal.note (.progress p)).map fun outcome =>
        (outcome.dataset, outcome.items))
      (pursue j (fun e => Journal.note (.notice e)) o input) := by
  intro j
  simp only [Job.run, pursue, bind_assoc]
  -- The phases are compared one by one, and a fault ends both
  refine .bind (seenAs_submit o backend sleep policy input) fun submitted => ?_
  cases submitted with
  | error fault => exact fun _ => rfl
  | ok handle =>
    simp only [bind_assoc]
    refine .bind (Job.seenAs_wait (seenAs_recording o _ _ fun _ => rfl)
      (fun d => seenAs_recording o (sleep d) (fun _ => .slept d) fun _ => rfl)
      (seenAs_progress o)) fun finished => ?_
    cases finished with
    | error fault => exact fun _ => rfl
    | ok finished =>
      have hretrieve : SeenAs (inWords o) (j.retrieve finished) (j.retrieve finished) :=
        Job.seenAs_retrieve (fun dataset =>
          seenAs_recording o (backend.items dataset) (.fetched dataset) fun _ => rfl) finished
      intro s
      show (j.retrieve finished).run (inWords o s) = _
      rw [hretrieve s]
      simp only [StateT.run_bind]
      rcases (j.retrieve finished).run s with ⟨fault | ⟨dataset, items⟩, s₁⟩ <;> rfl

end Pipelines

/-- What a scrape tells is no call. -/
theorem filter_isCall_retold (events : List Event) :
    (events.flatMap (retold o)).filter Event.isCall = events.filter Event.isCall := by
  have htold : ∀ message, (told o message).filter Event.isCall = [] := by
    intro message
    unfold told
    split <;> rfl
  induction events with
  | nil => rfl
  | cons e events ih =>
    rw [List.flatMap_cons, List.filter_append, ih, ← List.singleton_append, List.filter_append]
    congr 1
    cases e with
    | started input answer =>
      cases answer with
      | error fault => rfl
      | ok handle => exact congrArg (List.cons _) (htold _)
    -- What is told takes the place of the progress; the other events stay
    | progress p => exact htold _
    | checked | fetched | slept | notice => rfl

end Agreement

/-- Whatever the backend answers, a scrape and `Job.run` make the same calls in the same order, tell
of the same progress, and come to the same fault or the same dataset; what the scrape reports on the
items is the timeline of the run.  The scrape does so up to the dataset, for its own job. -/
theorem pipelines_agree {σ : Type} (backend : Service (StateM σ)) (sleep : Duration → StateM σ Unit)
    (o : ScrapeOptions) (s : Settings) (r : JobRequest) (b : σ) :
    let j := Journal.job backend sleep s.poll
    let input := RunInput.ofRequest s r
    let direct := (j.run input fun p => Journal.note (.progress p)).run ⟨b, []⟩
    let manual := (pursue j (fun e => Journal.note (.notice e)) o input).run ⟨b, []⟩
    manual.1 = direct.1.map (fun outcome => (outcome.dataset, outcome.items)) ∧
    manual.2.backend = direct.2.backend ∧
    manual.2.events.filter Event.isCall = direct.2.events.filter Event.isCall ∧
    manual.2.events = direct.2.events.flatMap (retold o) ∧
    ∀ {τ : Type} (machine : Machine (StateM τ)) (notify : Envelope → StateM τ Unit) (shared : Path),
      scrape machine notify o shared s r = (do
        match harvested r.username (← pursue (job machine s) notify o input) with
        | .error fault => return .error fault
        | .ok (dataset, items) => save machine o shared r dataset items) ∧
      ∀ outcome, direct.1 = .ok outcome → o.raw = false →
        save machine o shared r outcome.dataset outcome.items =
          saveTimeline machine o shared r outcome.dataset (outcome.timeline r.username) := by
  intro j input direct manual
  -- The journals are related event by event; the rest is read off from that
  have hseen := seenAs_pursue o backend sleep s.poll input ⟨b, []⟩
  change manual = (direct.1.map _, inWords o direct.2) at hseen
  have hevents : manual.2.events = direct.2.events.flatMap (retold o) := by rw [hseen]; rfl
  refine ⟨by rw [hseen], by rw [hseen]; rfl, ?_, hevents, fun machine notify shared =>
    ⟨scrape_eq_pursue machine notify o shared s r, fun outcome _ hraw =>
      save_outcome machine hraw shared r outcome⟩⟩
  rw [hevents, filter_isCall_retold]

end Scrape

end TweetHarvest
