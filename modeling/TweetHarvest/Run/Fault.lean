import TweetHarvest.Run.Status
import TweetHarvest.Text.Digits

/-!
# Faults of a run

* `RunFault`          the causes, by the phase of the run in which they arise
* `RunFault.message`  their wording
-/

namespace TweetHarvest

/-- Why a run does not yield a dataset. -/
inductive RunFault where
  /-- The run could not be started. -/
  | submission (actor message : String)
  /-- Its status could not be read. -/
  | statusCheck (run message : String)
  /-- It was still under way when the time was over. -/
  | pollTimeout (run : String) (waitedSeconds : Nat) (last : RunStatus)
  /-- It ended without success. -/
  | runFinished (run : String) (status : RunStatus)
  /-- Its dataset could not be read. -/
  | retrieval (message : String)
  /-- Anything else, as messages from the outermost to the innermost cause. -/
  | other (chain : List String)
deriving DecidableEq, Repr

namespace RunFault

/-- The wording of a fault; of other causes only the outermost is told. -/
def message : RunFault → String
  | .submission actor message => "Failed to start actor " ++ actor ++ ": " ++ message
  | .statusCheck run message => "Status check failed for run " ++ run ++ ": " ++ message
  | .pollTimeout run waited last =>
    "Run " ++ run ++ " did not finish within " ++ Decimal.text waited ++ "s (last status: " ++
      last.text ++ ")"
  | .runFinished run status => "Actor run " ++ run ++ " finished with status: " ++ status.text
  | .retrieval message => "Failed to fetch dataset items: " ++ message
  | .other chain => chain.headD ""

end RunFault

end TweetHarvest
