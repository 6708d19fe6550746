import TweetHarvest.Run.Fault
import TweetHarvest.Run.Handle
import TweetHarvest.Run.Input
import TweetHarvest.Timeline.Basic

/-!
# Running a job

A job is submitted, its status is checked at fixed intervals until it is final or the time is over,
and its dataset is fetched.  The service is given by its three operations in any monad, so that the
same job runs against the network and against a script.

* `Service`              the operations that a job needs
* `PollPolicy.nap`       how long to wait before the next check
* `Job.wait`             checks until there is an outcome; the time left shrinks with every nap
* `Job.retrieve`         the dataset of a run that succeeded
* `Job.run`              all three steps
* `RunOutcome.timeline`  the timeline that a run has yielded
-/

namespace TweetHarvest

open Json (Value)

/-- The operations of the service that runs actors. -/
structure Service (m : Type → Type) where
  /-- Starts a run. -/
  start : RunInput → m (Except RunFault RunHandle)
  /-- The current state of a run. -/
  status : String → m (Except RunFault RunHandle)
  /-- All items of a dataset. -/
  items : String → m (Except RunFault (List Value))

/-- What a check of the status has shown. -/
structure Progress where
  run : String
  status : RunStatus
  waited : Duration
deriving DecidableEq, Repr

/-- The results of a run. -/
structure RunOutcome where
  run : String
  dataset : String
  items : List Value

/-- The timeline of the items of a run. -/
def RunOutcome.timeline (o : RunOutcome) (username : String) : Timeline :=
  .ofItems o.items username

/-- The least time between two checks, so that no interval makes them follow without a pause. -/
def PollPolicy.leastNap : Duration := .ofMillis 1

/-- How long to wait before the next check: the interval, but at least `leastNap`, and at most what
is left of the time. -/
def PollPolicy.nap (p : PollPolicy) (waited : Duration) : Duration :=
  ⟨min (max p.interval.nanos leastNap.nanos) (p.maxWait.nanos - waited.nanos)⟩

/-- No nap is longer than the time that is left. -/
theorem PollPolicy.nap_le (p : PollPolicy) (waited : Duration) :
    (p.nap waited).nanos ≤ p.maxWait.nanos - waited.nanos :=
  Nat.min_le_right _ _

/-- While there is time left, naps are positive. -/
theorem PollPolicy.nap_pos (p : PollPolicy) {waited : Duration}
    (h : waited.nanos < p.maxWait.nanos) : 0 < (p.nap waited).nanos := by
  have least : leastNap.nanos = 1000000 := rfl
  simp only [nap]
  omega

/-- What a check decides, after `waited`: an outcome, or nothing while time is left. -/
def PollPolicy.verdict? (p : PollPolicy) (run : String) (waited : Duration) (h : RunHandle) :
    Option (Except RunFault RunHandle) :=
  if h.status.isTerminal then
    some (if h.status = .succeeded then .ok h else .error (.runFinished run h.status))
  -- An open status is waited for as long as there is time
  else if waited.nanos < p.maxWait.nanos then none
  else some (.error (.pollTimeout run waited.seconds h.status))

/-- Undecided checks leave time to wait. -/
theorem PollPolicy.lt_of_verdict?_eq_none {p : PollPolicy} {run : String} {waited : Duration}
    {h : RunHandle} (undecided : p.verdict? run waited h = none) :
    waited.nanos < p.maxWait.nanos := by
  simp only [verdict?] at undecided
  split at undecided
  · exact nomatch undecided
  · split at undecided
    · assumption
    · exact nomatch undecided

/-- The means to run a job. -/
structure Job (m : Type → Type) where
  service : Service m
  policy : PollPolicy
  /-- Lets time pass. -/
  sleep : Duration → m Unit

namespace Job

variable {m : Type → Type} [Monad m]

/-- Starts the run. -/
def submit (j : Job m) (input : RunInput) : m (Except RunFault RunHandle) :=
  j.service.start input

/-- Checks the status until there is an outcome, having waited for `waited`; each check that gets
an answer is told to `onProgress`. -/
def waitFrom (j : Job m) (run : String) (onProgress : Progress → m Unit) (waited : Duration) :
    m (Except RunFault RunHandle) := do
  match ← j.service.status run with
  | .error fault => return .error fault
  | .ok handle =>
    onProgress ⟨run, handle.status, waited⟩
    match _verdict : j.policy.verdict? run waited handle with
    | some outcome => return outcome
    | none =>
      j.sleep (j.policy.nap waited)
      j.waitFrom run onProgress ⟨waited.nanos + (j.policy.nap waited).nanos⟩
termination_by j.policy.maxWait.nanos - waited.nanos
decreasing_by
  have left := PollPolicy.lt_of_verdict?_eq_none _verdict
  have positive := j.policy.nap_pos left
  omega

/-- Checks the status until there is an outcome. -/
def wait (j : Job m) (run : String) (onProgress : Progress → m Unit) :
    m (Except RunFault RunHandle) :=
  j.waitFrom run onProgress .zero

/-- Fetches the dataset of a finished run: its id and its items. -/
def retrieve (j : Job m) (handle : RunHandle) : m (Except RunFault (String × List Value)) := do
  match handle.dataset? with
  | none => return .error (.retrieval ("No dataset id returned for run " ++ handle.id))
  | some dataset =>
    match ← j.service.items dataset with
    | .error fault => return .error fault
    | .ok items => return .ok (dataset, items)

/-- Submits, waits and retrieves. -/
def run (j : Job m) (input : RunInput) (onProgress : Progress → m Unit) :
    m (Except RunFault RunOutcome) := do
  match ← j.submit input with
  | .error fault => return .error fault
  | .ok handle =>
    match ← j.wait handle.id onProgress with
    | .error fault => return .error fault
    | .ok finished =>
      match ← j.retrieve finished with
      | .error fault => return .error fault
      | .ok (dataset, items) => return .ok ⟨finished.id, dataset, items⟩

end Job

end TweetHarvest
