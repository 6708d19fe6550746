import TweetHarvest.Proofs.Run.PollLoop

/-!
# The outcome of the poll loop

A scripted service that writes down what happens in order, and what the log of a job that is waited
for looks like: how many checks there are, when each of them takes place, what is told of them, and
what comes of it all.  The views of a log are homomorphisms, so that one turn of the loop adds one
entry to each of them; `Log.Checked` is the invariant.

## Key results

- `Script.Log.checkTimes_append`: how much sleep lies before each check of a longer log
- `Script.wait_finished`: the log and the outcome of a job that is waited for
- `Script.wait_exact`: the checks, their times and the outcome as functions of the answers
-/

namespace TweetHarvest.Script

/-! ## Logs -/

/-- Something that happens in a job. -/
inductive Event where
  | called (c : Call)
  | told (p : Progress)
  | slept (d : Duration)
deriving DecidableEq, Repr

/-- Everything that has happened so far, in order. -/
abbrev Log := List Event

namespace Log

/-- The calls of the service. -/
def calls (l : Log) : List Call :=
  l.filterMap fun
    | .called c => some c
    | _ => none

/-- The progress that has been told. -/
def progress (l : Log) : List Progress :=
  l.filterMap fun
    | .told p => some p
    | _ => none

/-- The nanoseconds slept in all. -/
def slept : Log → Nat
  | [] => 0
  | .slept d :: rest => d.nanos + slept rest
  | _ :: rest => slept rest

/-- The nanoseconds slept before each check of the status, after `now` of them. -/
def checkTimesFrom (now : Nat) : Log → List Nat
  | [] => []
  | .slept d :: rest => checkTimesFrom (now + d.nanos) rest
  | .called (.status _) :: rest => now :: checkTimesFrom now rest
  | _ :: rest => checkTimesFrom now rest

/-- The nanoseconds slept before each check of the status. -/
def checkTimes (l : Log) : List Nat := l.checkTimesFrom 0

/-- How many checks of the status there have been. -/
def checks (l : Log) : Nat := l.checkTimes.length

/-- The time slept in two logs adds up. -/
theorem slept_append (l m : Log) : (l ++ m).slept = l.slept + m.slept := by
  induction l with
  | nil => simp [slept]
  | cons e l ih =>
    cases e with
    | called c => simp only [List.cons_append, slept, ih]
    | told p => simp only [List.cons_append, slept, ih]
    | slept d =>
      simp only [List.cons_append, slept, ih]
      omega

/-- In the second of two logs, the time starts with what was slept in the first. -/
private theorem checkTimesFrom_append (now : Nat) (l m : Log) :
    (l ++ m).checkTimesFrom now = l.checkTimesFrom now ++ m.checkTimesFrom (now + l.slept) := by
  induction l generalizing now with
  | nil => simp [checkTimesFrom, slept]
  | cons e l ih =>
    cases e with
    | called c => cases c <;> simp [checkTimesFrom, slept, ih]
    | told p => simp [checkTimesFrom, slept, ih]
    | slept d => simp [checkTimesFrom, slept, ih, Nat.add_assoc]

/-- The checks of a longer log come after all the sleep of the shorter one. -/
theorem checkTimes_append (l m : Log) :
    (l ++ m).checkTimes = l.checkTimes ++ m.checkTimesFrom l.slept := by
  simp [checkTimes, checkTimesFrom_append]

end Log

/-- Writes down an event. -/
def record (e : Event) : StateM Log Unit := modify (· ++ [e])

/-- The job that the script serves, with a log of all that happens. -/
def logged (s : Script) (policy : PollPolicy) : Job (StateM Log) where
  service :=
    { start := fun input => do
        record (.called (.start input))
        return s.start
      status := fun run => do
        let l ← get
        record (.called (.status run))
        return s.status l.checks run
      items := fun dataset => do
        record (.called (.items dataset))
        return s.items }
  policy
  sleep d := record (.slept d)

/-! ## Answers -/

/-- Whether an answer decides the outcome by itself. -/
def Settles : Except RunFault RunHandle → Prop
  | .error _ => True
  | .ok handle => handle.status.isTerminal = true

/-- What an answer that decides the outcome by itself comes to. -/
def settledOutcome (run : String) : Except RunFault RunHandle → Except RunFault RunHandle
  | .error fault => .error fault
  | .ok handle =>
    if handle.status = .succeeded then .ok handle else .error (.runFinished run handle.status)

/-- What is told of an answer. -/
def progressOf (run : String) (waited : Duration) : Except RunFault RunHandle → Option Progress
  | .error _ => none
  | .ok handle => some ⟨run, handle.status, waited⟩

/-! ## The log of a job that is waited for -/

section Wait

variable (s : Script) (p : PollPolicy) (run : String)

/-- The log after `n` checks of a run: what has been called, when, and what has been told. -/
structure Log.Checked (n : Nat) (l : Log) : Prop where
  calls : l.calls = List.replicate n (.status run)
  times : l.checkTimes = (List.range n).map fun k => (p.waitedBefore k).nanos
  progress : l.progress =
    (List.range n).filterMap fun k => progressOf run (p.waitedBefore k) (s.status k run)

variable {s p run}

/-- The number of checks is that of the calls. -/
theorem Log.Checked.checks_eq {n : Nat} {l : Log} (h : Log.Checked s p run n l) : l.checks = n := by
  simp [Log.checks, h.times]

/-- One more check, which fails or is told of, after the sleep that belongs in front of it. -/
theorem Log.Checked.check {n : Nat} {l : Log} (h : Log.Checked s p run n l)
    (hslept : l.slept = (p.waitedBefore n).nanos) :
    Log.Checked s p run (n + 1) (l ++ .called (.status run) ::
      ((progressOf run (p.waitedBefore n) (s.status n run)).map Event.told).toList) := by
  -- What is told is no check
  have hrest : ∀ o : Option Progress, ∀ now,
      Log.checkTimesFrom now (o.map Event.told).toList = [] := by
    intro o now; cases o <;> rfl
  constructor
  · have hcalls := h.calls
    simp only [Log.calls] at hcalls ⊢
    rw [List.filterMap_append, hcalls, List.replicate_succ']
    cases progressOf run (p.waitedBefore n) (s.status n run) <;> simp
  · rw [Log.checkTimes_append, h.times, List.range_succ, List.map_append, hslept]
    simp [Log.checkTimesFrom, hrest]
  · have hprogress := h.progress
    simp only [Log.progress] at hprogress ⊢
    rw [List.filterMap_append, hprogress, List.range_succ, List.filterMap_append]
    cases ho : progressOf run (p.waitedBefore n) (s.status n run) <;> simp [ho]

/-- A nap adds nothing but sleep. -/
theorem Log.Checked.nap {n : Nat} {l : Log} (h : Log.Checked s p run n l) (d : Duration) :
    Log.Checked s p run n (l ++ [.slept d]) := by
  constructor
  · simpa [Log.calls] using h.calls
  · simpa [Log.checkTimes_append, Log.checkTimesFrom] using h.times
  · simpa [Log.progress] using h.progress

/-- What holds before the check number `k` of a job that is waited for. -/
structure Waiting (s : Script) (p : PollPolicy) (run : String) (k : Nat) (l : Log) : Prop where
  checked : Log.Checked s p run k l
  slept : l.slept = (p.waitedBefore k).nanos
  undecided : ∀ i < k, ¬ Settles (s.status i run)
  inTime : k ≤ p.lastCheck

/-- What holds when the check number `k` has decided the outcome. -/
structure Finished (s : Script) (p : PollPolicy) (run : String) (k : Nat)
    (outcome : Except RunFault RunHandle) (l : Log) : Prop where
  checked : Log.Checked s p run (k + 1) l
  slept : l.slept = (p.waitedBefore k).nanos
  undecided : ∀ i < k, ¬ Settles (s.status i run)
  inTime : k ≤ p.lastCheck
  settled : Settles (s.status k run) → outcome = settledOutcome run (s.status k run)
  timeOver : ¬ Settles (s.status k run) → k = p.lastCheck ∧ ∃ handle,
    s.status k run = .ok handle ∧
    outcome = .error (.pollTimeout run p.maxWait.seconds handle.status)

/-- The check number `k` fails. -/
private theorem Waiting.failed {k : Nat} {l : Log} {fault : RunFault} (h : Waiting s p run k l)
    (ha : s.status k run = .error fault) :
    Finished s p run k (.error fault) (l ++ [.called (.status run)]) := by
  have hsettles : Settles (s.status k run) := by simp [ha, Settles]
  refine ⟨?_, ?_, h.undecided, h.inTime, ?_, fun hno => absurd hsettles hno⟩
  · simpa [ha, progressOf] using h.checked.check h.slept
  · simp [Log.slept_append, Log.slept, h.slept]
  · simp [ha, settledOutcome]

/-- The check number `k` decides the outcome. -/
private theorem Waiting.decided {k : Nat} {l : Log} {handle : RunHandle}
    {outcome : Except RunFault RunHandle} (h : Waiting s p run k l)
    (ha : s.status k run = .ok handle)
    (hv : p.verdict? run (p.waitedBefore k) handle = some outcome) :
    Finished s p run k outcome
      (l ++ [.called (.status run)] ++ [.told ⟨run, handle.status, p.waitedBefore k⟩]) := by
  refine ⟨?_, ?_, h.undecided, h.inTime, ?_, ?_⟩
  · simpa [ha, progressOf] using h.checked.check h.slept
  · simp [Log.slept_append, Log.slept, h.slept]
  -- A status that settles the matter gives the outcome, whatever the time
  · intro hsettles
    rw [ha] at hsettles ⊢
    simp only [Settles] at hsettles
    simp only [PollPolicy.verdict?, hsettles, if_true, Option.some.injEq] at hv
    rw [← hv, settledOutcome]
  · intro hopen
    rw [ha] at hopen
    simp only [Settles, Bool.not_eq_true] at hopen
    obtain ⟨hlast, houtcome⟩ := PollPolicy.eq_lastCheck_of_verdict? h.inTime hopen hv
    exact ⟨hlast, handle, ha, houtcome⟩

/-- The check number `k` leaves the matter open, and the next one is due after a nap. -/
private theorem Waiting.next {k : Nat} {l : Log} {handle : RunHandle} (h : Waiting s p run k l)
    (ha : s.status k run = .ok handle)
    (hv : p.verdict? run (p.waitedBefore k) handle = none) :
    Waiting s p run (k + 1)
      (l ++ [.called (.status run)] ++ [.told ⟨run, handle.status, p.waitedBefore k⟩] ++
        [.slept (p.nap (p.waitedBefore k))]) := by
  obtain ⟨hopen, hlt⟩ := (p.verdict?_waitedBefore_eq_none_iff run k handle).1 hv
  refine ⟨Log.Checked.nap ?_ _, ?_, ?_, hlt⟩
  -- The log has a check, what was told and a nap more
  · simpa [ha, progressOf] using h.checked.check h.slept
  · rw [← p.waitedBefore_succ k]
    simp [Log.slept_append, Log.slept, h.slept]
  · intro i hi
    -- The new check is undecided as well: its status may still change
    rcases Nat.lt_succ_iff_lt_or_eq.1 hi with hi | rfl
    · exact h.undecided i hi
    · simp [ha, Settles, hopen]

/-- The log and the outcome of a job that is waited for. -/
theorem wait_finished (s : Script) (p : PollPolicy) (run : String) :
    ∃ k, Finished s p run k
      (((s.logged p).wait run (record ∘ .told)).run []).1
      (((s.logged p).wait run (record ∘ .told)).run []).2 := by
  -- The script answers by the number of checks in the log
  have hstatus : ∀ l : Log, ((s.logged p).service.status run).run l =
      (s.status l.checks run, l ++ [.called (.status run)]) := fun _ => rfl
  refine Job.wait_induction (s.logged p) run (record ∘ .told) (P := Waiting s p run)
    (Q := fun outcome l => ∃ k, Finished s p run k outcome l) ?failed ?decided ?undecided ?start
  case failed =>
    intro k l fault l₁ hk hs
    rw [hstatus, hk.checked.checks_eq] at hs
    obtain ⟨ha, rfl⟩ := Prod.mk.inj hs
    exact ⟨k, hk.failed ha⟩
  case decided =>
    intro k l handle l₁ outcome hk hs hv
    rw [hstatus, hk.checked.checks_eq] at hs
    obtain ⟨ha, rfl⟩ := Prod.mk.inj hs
    exact ⟨k, hk.decided ha hv⟩
  case undecided =>
    intro k l handle l₁ hk hs hv
    rw [hstatus, hk.checked.checks_eq] at hs
    obtain ⟨ha, rfl⟩ := Prod.mk.inj hs
    exact hk.next ha hv
  case start => exact ⟨⟨rfl, rfl, rfl⟩, by simp [Log.slept, Duration.zero], by simp, by simp⟩

end Wait

/-- The poll loop, exactly.  With a period of at least a millisecond and the last check due when the
time is over, the check number `k` takes place after `k` periods or when the time is over; the first
answer that settles the matter is the last one, whatever it is, and without one the checks go on to
the last.  What is told follows the answers one by one, and the sleep never exceeds the time. -/
theorem wait_exact (s : Script) (p : PollPolicy) (run : String) :
    let m := max p.interval.nanos 1000000
    let last := (p.maxWait.nanos + m - 1) / m
    let waited := fun k => min (k * m) p.maxWait.nanos
    let answer := fun k => s.status k run
    let job := ((s.logged p).wait run (record ∘ .told)).run []
    job.2.calls = List.replicate job.2.checks (.status run) ∧
    job.2.checkTimes = (List.range job.2.checks).map waited ∧
    job.2.progress =
      (List.range job.2.checks).filterMap (fun k => progressOf run ⟨waited k⟩ (answer k)) ∧
    job.2.slept ≤ p.maxWait.nanos ∧
    (∀ j ≤ last, Settles (answer j) → (∀ i < j, ¬ Settles (answer i)) →
      job.2.checks = j + 1 ∧ job.1 = settledOutcome run (answer j)) ∧
    ((∀ j ≤ last, ¬ Settles (answer j)) →
      job.2.checks = last + 1 ∧ ∃ handle, answer last = .ok handle ∧
        job.1 = .error (.pollTimeout run (p.maxWait.nanos / 1000000000) handle.status)) := by
  intro m last waited answer job
  -- The number of the check that decides is the least that settles the matter, or the last
  obtain ⟨k, hk⟩ := wait_finished s p run
  have hchecks : job.2.checks = k + 1 := hk.checked.checks_eq
  have hkLast : k ≤ last := hk.inTime
  rw [hchecks]
  refine ⟨hk.checked.calls, hk.checked.times, hk.checked.progress, ?_, ?_, ?_⟩
  · exact hk.slept ▸ p.waitedBefore_le k
  · intro j hj hsettles hbefore
    -- An earlier check would have settled nothing, and a later one is never made.
    have hjk : j = k := by
      rcases Nat.lt_trichotomy j k with hlt | heq | hgt
      · exact absurd hsettles (hk.undecided j hlt)
      · exact heq
      · have hlast : k = last := (hk.timeOver (hbefore k hgt)).1
        omega
    subst hjk
    exact ⟨rfl, hk.settled hsettles⟩
  · intro hopen
    obtain ⟨hlast, handle, ha, houtcome⟩ := hk.timeOver (hopen k hkLast)
    have hsame : k = last := hlast
    subst hsame
    exact ⟨rfl, handle, ha, houtcome⟩

end TweetHarvest.Script
