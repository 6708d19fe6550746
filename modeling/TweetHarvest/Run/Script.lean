import TweetHarvest.Run.Job

/-!
# Scripted services

A service whose answers are laid down beforehand, with a record of what it was asked.  Status
checks are answered by their number, so that a script can stand for any sequence of answers; time
passes only in the record.

* `Script.service`  the service
* `Script.job`      a job that it serves
* `Script.Record`   the calls, the progress told and the time slept
-/

namespace TweetHarvest

open Json (Value)

/-- The answers of a service. -/
structure Script where
  start : Except RunFault RunHandle
  /-- The answer to a status check: its number, counted from zero, and the run asked for. -/
  status : Nat → String → Except RunFault RunHandle
  items : Except RunFault (List Value)

namespace Script

/-- A call of the service. -/
inductive Call where
  | start (input : RunInput)
  | status (run : String)
  | items (dataset : String)
deriving DecidableEq, Repr

/-- What has happened so far, latest things in front. -/
structure Record where
  checks : Nat
  calls : List Call
  progress : List Progress
  slept : Duration
deriving DecidableEq, Repr

/-- Nothing has happened, but for some checks of an earlier job. -/
def Record.fresh (checks : Nat) : Record := ⟨checks, [], [], .zero⟩

/-- The service that answers from the script. -/
def service (s : Script) : Service (StateM Record) where
  start input := do
    modify fun r => { r with calls := .start input :: r.calls }
    return s.start
  status run := do
    let r ← get
    set { r with checks := r.checks + 1, calls := .status run :: r.calls }
    return s.status r.checks run
  items dataset := do
    modify fun r => { r with calls := .items dataset :: r.calls }
    return s.items

/-- A job served by the script. -/
def job (s : Script) (policy : PollPolicy) : Job (StateM Record) where
  service := s.service
  policy
  sleep d := modify fun r => { r with slept := ⟨r.slept.nanos + d.nanos⟩ }

/-- Records the progress of a run. -/
def noteProgress (p : Progress) : StateM Record Unit :=
  modify fun r => { r with progress := p :: r.progress }

end Script

end TweetHarvest
