/-!
# Run statuses

The states of a run that the service reports.  Statuses that are not known are kept verbatim and
count as still in progress.

* `RunStatus.ofString`, `RunStatus.text`  the wording of a status, there and back
* `RunStatus.isTerminal`                  whether the status can never change again
-/

namespace TweetHarvest

/-- The state of a run. -/
inductive RunStatus where
  | ready
  | running
  | succeeded
  | failed
  | aborting
  | aborted
  | timingOut
  | timedOut
  | other (text : String)
deriving DecidableEq, Repr

namespace RunStatus

/-- The statuses with a meaning and their wording. -/
def known : List (RunStatus × String) :=
  [(.ready, "READY"), (.running, "RUNNING"), (.succeeded, "SUCCEEDED"), (.failed, "FAILED"),
   (.aborting, "ABORTING"), (.aborted, "ABORTED"), (.timingOut, "TIMING-OUT"),
   (.timedOut, "TIMED-OUT")]

/-- The wording of a status. -/
def text : RunStatus → String
  | .ready => "READY"
  | .running => "RUNNING"
  | .succeeded => "SUCCEEDED"
  | .failed => "FAILED"
  | .aborting => "ABORTING"
  | .aborted => "ABORTED"
  | .timingOut => "TIMING-OUT"
  | .timedOut => "TIMED-OUT"
  | .other text => text

/-- The status with the given wording. -/
def ofString (s : String) : RunStatus :=
  match known.find? (·.2 == s) with
  | some (status, _) => status
  | none => .other s

/-- Whether a status has a meaning of its own. -/
def isKnown : RunStatus → Bool
  | .other _ => false
  | _ => true

/-- Whether a run in this state is over. -/
def isTerminal : RunStatus → Bool
  | .succeeded | .failed | .aborted | .timedOut => true
  | _ => false

end RunStatus

end TweetHarvest
