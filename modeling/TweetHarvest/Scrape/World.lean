import TweetHarvest.Files.Disk
import TweetHarvest.Scrape.Basic

/-!
# Worlds given by data

A machine whose surroundings are values: a disk, a clock that stands still, a peer that answers
requests by their number, and a record of what has been sent and printed.

* `World`            the surroundings and the record
* `World.machine`    the machine that works on a world
-/

namespace TweetHarvest

/-- The surroundings of a machine, and what it has done to them. -/
structure World where
  /-- The outcome of a request: how many have been answered before it, and the request. -/
  reply : Nat → Http.Request → Http.Outcome
  time : Instant
  disk : Disk
  /-- The requests sent, the last one in front. -/
  requests : List Http.Request
  /-- The lines printed, the last one in front. -/
  lines : List String
  slept : Duration

namespace World

/-- A world in which nothing has happened yet. -/
def start (reply : Nat → Http.Request → Http.Outcome) (time : Instant) (disk : Disk) : World :=
  ⟨reply, time, disk, [], [], .zero⟩

/-- The same with a disk that is not in trouble. -/
def fresh (reply : Nat → Http.Request → Http.Outcome) (time : Instant) (tree : FileTree) : World :=
  start reply time ⟨tree, []⟩

/-- The files of a world. -/
def tree (w : World) : FileTree := w.disk.tree

/-- Works on the disk of a world. -/
def onDisk {α : Type} (op : StateM Disk α) : StateM World α := fun w =>
  let (result, disk) := op.run w.disk
  (result, { w with disk })

/-- Sends a request. -/
def send (r : Http.Request) : StateM World Http.Outcome := fun w =>
  (w.reply w.requests.length r, { w with requests := r :: w.requests })

/-- Prints a line. -/
def printLine (line : String) : StateM World Unit :=
  modify fun w => { w with lines := line :: w.lines }

/-- The machine that works on a world, in the directory `here`. -/
def machine (here : Location) : Machine (StateM World) where
  send := send
  sleep d := modify fun w => { w with slept := ⟨w.slept.nanos + d.nanos⟩ }
  now := return (← get).time
  files := (FileSystem.ofDisk here).lift onDisk
  printLine := printLine

end World

end TweetHarvest
