/-!
# Spans of time

* `Duration`  a span in nanoseconds
-/

namespace TweetHarvest

/-- A span of time. -/
structure Duration where
  nanos : Nat
deriving DecidableEq, Repr

namespace Duration

/-- No time at all. -/
def zero : Duration := ⟨0⟩

/-- A span of whole seconds. -/
def ofSeconds (n : Nat) : Duration := ⟨n * 1000000000⟩

/-- A span of whole milliseconds. -/
def ofMillis (n : Nat) : Duration := ⟨n * 1000000⟩

/-- A span of whole microseconds. -/
def ofMicros (n : Nat) : Duration := ⟨n * 1000⟩

/-- The whole seconds of a span. -/
def seconds (d : Duration) : Nat := d.nanos / 1000000000

/-- The whole milliseconds of a span. -/
def millis (d : Duration) : Nat := d.nanos / 1000000

/-- The whole microseconds of a span. -/
def micros (d : Duration) : Nat := d.nanos / 1000

end Duration

end TweetHarvest
