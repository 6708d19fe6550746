import TweetHarvest.Json.Printer

/-!
# Envelopes

What the program prints: an object with a status, a message and further fields, which follow in
ascending order of their keys.

* `Envelope.withField`            sets a field
* `Envelope.compact`, `.pretty`   the two renderings
-/

namespace TweetHarvest

open Json (Value)

/-- How things stand. -/
inductive Envelope.Status where
  | success
  | error
  | processing
deriving DecidableEq, Repr

/-- The name of a status. -/
def Envelope.Status.name : Envelope.Status → String
  | .success => "success"
  | .error => "error"
  | .processing => "processing"

/-- An object for printing. -/
structure Envelope where
  status : Envelope.Status
  message : String
  /-- The further fields, sorted by key. -/
  fields : List (String × Value)

namespace Envelope

/-- An envelope without further fields. -/
def plain (status : Status) (message : String) : Envelope := ⟨status, message, []⟩

/-- An envelope about a success. -/
def success (message : String) : Envelope := plain .success message

/-- An envelope about an error. -/
def error (message : String) : Envelope := plain .error message

/-- An envelope about work under way. -/
def processing (message : String) : Envelope := plain .processing message

/-- Sets a field; a later value of a key replaces the earlier one. -/
def withField (e : Envelope) (key : String) (value : Value) : Envelope :=
  { e with fields := Json.insertField key value e.fields }

/-- An envelope as JSON: status and message stand in front. -/
def toValue (e : Envelope) : Value :=
  .object (("status", .string e.status.name) :: ("message", .string e.message) :: e.fields)

/-- The envelope on one line. -/
def compact (e : Envelope) : String := e.toValue.compact

/-- The envelope in the pretty layout. -/
def pretty (e : Envelope) : String := e.toValue.pretty

end Envelope

end TweetHarvest
