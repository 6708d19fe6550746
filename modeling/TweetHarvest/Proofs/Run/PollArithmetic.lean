import Mathlib.Control.Monad.Basic
import TweetHarvest.Proofs.Run.PollLoop
import TweetHarvest.Scrape.Options

/-!
# The arithmetic of the poll loop

A span of time has its seconds in 64 bits and a rest below a second; a difference below zero or a
sum beyond that ends a program at once.  `Duration` counts without such limits, so the loop is
followed here with operations that have them: `Job.turn` is one turn of it, in its order, and tells
of a span that cannot be had.  The turns that follow one another from the start (`Job.Before`) are
the checks of `Job.wait`, and the time waited before each of them is `PollPolicy.waitedBefore`.

## Key results

- `ScrapeOptions.fits_of_settings`: the spans that a scrape is told to wait for are such spans
- `Job.turn_cases`: what a turn within the time comes to, and how the running loop goes on with it
- `Job.Before.inTime`: how the loop stands before each of its turns
- `Job.turns_in_time`: no turn breaks off, every nap is positive, and the turns come to an end
-/

namespace TweetHarvest

namespace Duration

/-! ## Spans with limits -/

/-- The spans that there are: the seconds are a number of 64 bits, with any rest below a second. -/
def Fits (d : Duration) : Prop := d.seconds < UInt64.size

instance : DecidablePred Fits := fun d => inferInstanceAs (Decidable (d.seconds < _))

/-- The difference of two spans, unless it lies below zero. -/
def minus? (d e : Duration) : Option Duration :=
  if e.nanos ≤ d.nanos then some ⟨d.nanos - e.nanos⟩ else none

/-- The sum of two spans, if it fits. -/
def plus? (d e : Duration) : Option Duration :=
  if Fits ⟨d.nanos + e.nanos⟩ then some ⟨d.nanos + e.nanos⟩ else none

/-- A shorter time can be taken from a longer one. -/
theorem minus?_of_le {d e : Duration} (h : e.nanos ≤ d.nanos) :
    d.minus? e = some ⟨d.nanos - e.nanos⟩ :=
  if_pos h

/-- Two times can be added if their sum is within a limit that fits. -/
theorem plus?_of_le {d e limit : Duration} (fits : limit.Fits)
    (h : d.nanos + e.nanos ≤ limit.nanos) : d.plus? e = some ⟨d.nanos + e.nanos⟩ :=
  if_pos (Nat.lt_of_le_of_lt (Nat.div_le_div_right h) fits)

/-- Seconds that are counted with sixty-four bits fit. -/
theorem fits_ofSeconds (n : UInt64) : (ofSeconds n.toNat).Fits := by
  rw [Fits, seconds, ofSeconds, Nat.mul_div_cancel _ (by decide)]
  exact n.toNat_lt_size

end Duration

/-- The spans that a scrape can be told to wait for fit. -/
theorem ScrapeOptions.fits_of_settings {o : ScrapeOptions} {token : String} {s : Settings}
    (h : o.settings token = .ok s) : s.poll.interval.Fits ∧ s.poll.maxWait.Fits := by
  simp only [settings] at h
  split at h
  · exact nomatch h
  · cases h
    exact ⟨Duration.fits_ofSeconds _, Duration.fits_ofSeconds _⟩

namespace PollPolicy

variable {p : PollPolicy} {waited : Duration}

/-- The nap before the next check, if the time that is left can be told. -/
def nap? (p : PollPolicy) (waited : Duration) : Option Duration :=
  (p.maxWait.minus? waited).map fun left => ⟨min (max p.interval.nanos leastNap.nanos) left.nanos⟩

/-- While less than the longest wait has passed, there is a nap. -/
theorem nap?_of_le (h : waited.nanos ≤ p.maxWait.nanos) : p.nap? waited = some (p.nap waited) := by
  rw [nap?, Duration.minus?_of_le h]
  rfl

/-- A nap is added to the time waited without going beyond the limits. -/
theorem plus?_nap (fits : p.maxWait.Fits) (h : waited.nanos ≤ p.maxWait.nanos) :
    waited.plus? (p.nap waited) = some ⟨waited.nanos + (p.nap waited).nanos⟩ := by
  have hnap := p.nap_le waited
  exact Duration.plus?_of_le fits (by omega)

end PollPolicy

namespace Job

/-- What a turn of the loop comes to. -/
inductive Turn where
  /-- The loop is over. -/
  | done (outcome : Except RunFault RunHandle)
  /-- After a nap, another turn is due. -/
  | napped (nap waited : Duration)
  /-- A span lies beyond the limits, and the program breaks off. -/
  | broken
deriving DecidableEq

variable {σ : Type} (j : Job (StateM σ)) (run : String) (tell : Progress → StateM σ Unit)

/-! ## One turn -/

/-- One turn of the loop, having waited for `waited`, with spans that have limits. -/
def turn (waited : Duration) : StateM σ Turn := do
  match ← j.service.status run with
  | .error fault => return .done (.error fault)
  | .ok handle =>
    tell ⟨run, handle.status, waited⟩
    match j.policy.verdict? run waited handle with
    | some outcome => return .done outcome
    | none =>
      match j.policy.nap? waited with
      | none => return .broken
      | some nap =>
        j.sleep nap
        match waited.plus? nap with
        | none => return .broken
        | some waited' => return .napped nap waited'

variable {j}

/-- Within the time, a turn has the spans it asks for. -/
theorem run_turn (fits : j.policy.maxWait.Fits) {waited : Duration}
    (inTime : waited.nanos ≤ j.policy.maxWait.nanos) (s : σ) :
    (j.turn run tell waited).run s =
      match (j.service.status run).run s with
      | (.error fault, s₁) => (.done (.error fault), s₁)
      | (.ok handle, s₁) =>
        match j.policy.verdict? run waited handle with
        | some outcome => (.done outcome, ((tell ⟨run, handle.status, waited⟩).run s₁).2)
        | none =>
          (.napped (j.policy.nap waited) ⟨waited.nanos + (j.policy.nap waited).nanos⟩,
            ((j.sleep (j.policy.nap waited)).run
              ((tell ⟨run, handle.status, waited⟩).run s₁).2).2) := by
  -- The two spans are there, so that none of the cases in which the program breaks off is left
  simp only [turn, StateT.run_bind, PollPolicy.nap?_of_le inTime, PollPolicy.plus?_nap fits inTime]
  rcases (j.service.status run).run s with ⟨_ | handle, s₁⟩
  · rfl
  · show StateT.run _ _ = _
    dsimp only
    rw [StateT.run_bind]
    cases j.policy.verdict? run waited handle <;> rfl

/-- Within the time, the loop is over with a turn, or there is time left and the running loop goes
on behind the nap. -/
theorem turn_cases (fits : j.policy.maxWait.Fits) {waited : Duration}
    (inTime : waited.nanos ≤ j.policy.maxWait.nanos) (s : σ) :
    (∃ outcome s₁, (j.turn run tell waited).run s = (.done outcome, s₁) ∧
      (j.waitFrom run tell waited).run s = (outcome, s₁)) ∨
    (waited.nanos < j.policy.maxWait.nanos ∧ ∃ s₁,
      (j.turn run tell waited).run s =
        (.napped (j.policy.nap waited) ⟨waited.nanos + (j.policy.nap waited).nanos⟩, s₁) ∧
      (j.waitFrom run tell waited).run s =
        (j.waitFrom run tell ⟨waited.nanos + (j.policy.nap waited).nanos⟩).run s₁) := by
  rw [run_turn run tell fits inTime, run_waitFrom]
  rcases (j.service.status run).run s with ⟨fault | handle, s₁⟩
  · exact .inl ⟨_, _, rfl, rfl⟩
  · cases hv : j.policy.verdict? run waited handle with
    | some outcome =>
      simp only [hv]
      exact .inl ⟨_, _, rfl, rfl⟩
    -- An answer that leaves the matter open leaves time, too
    | none =>
      simp only [hv]
      exact .inr ⟨PollPolicy.lt_of_verdict?_eq_none hv, _, rfl, rfl⟩

/-! ## All turns -/

/-- How the loop that starts in the state `s` stands before its turn number `n`, counted from zero:
the time waited, and the state. -/
inductive Before (j : Job (StateM σ)) (run : String) (tell : Progress → StateM σ Unit) (s : σ) :
    Nat → Duration → σ → Prop where
  | start : Before j run tell s 0 .zero s
  | next {n : Nat} {waited nap waited' : Duration} {t t' : σ} (before : Before j run tell s n waited t)
      (napped : (j.turn run tell waited).run t = (.napped nap waited', t')) :
      Before j run tell s (n + 1) waited' t'

namespace Before

variable {run tell} {s t t' : σ} {n m : Nat} {waited waited' : Duration}

/-- The time waited is that of the check with the same number, which is one that there can be, and
the rest of the running loop decides the whole of it. -/
theorem inTime (fits : j.policy.maxWait.Fits) (h : j.Before run tell s n waited t) :
    waited = j.policy.waitedBefore n ∧ n ≤ j.policy.lastCheck ∧
      (j.waitFrom run tell waited).run t = (j.wait run tell).run s := by
  induction h with
  | start => exact ⟨by simp, Nat.zero_le _, rfl⟩
  | @next n waited nap waited' t t' _ napped ih =>
    obtain ⟨rfl, -, hrest⟩ := ih
    -- Only a turn that naps has another one behind it, and then it is not the last check
    rcases turn_cases run tell fits (j.policy.waitedBefore_le n) t with
      ⟨_, _, hdone, -⟩ | ⟨hlt, _, hnapped, hgoesOn⟩
    · exact nomatch hdone.symm.trans napped
    · rw [hnapped] at napped
      cases napped
      rw [PollPolicy.waitedBefore_succ] at hgoesOn ⊢
      exact ⟨rfl, (j.policy.waitedBefore_lt_iff n).1 hlt, hgoesOn.symm.trans hrest⟩

/-- Before a turn no more than the longest wait has passed. -/
theorem le_maxWait (fits : j.policy.maxWait.Fits) (h : j.Before run tell s n waited t) :
    waited.nanos ≤ j.policy.maxWait.nanos := by
  rw [(h.inTime fits).1]
  exact j.policy.waitedBefore_le n

/-- The loop stands in one way before a turn. -/
theorem unique (h : j.Before run tell s n waited t) (h' : j.Before run tell s n waited' t') :
    waited = waited' ∧ t = t' := by
  induction h generalizing waited' t' with
  | start =>
    cases h'
    exact ⟨rfl, rfl⟩
  | next _ napped ih =>
    obtain _ | ⟨before', napped'⟩ := h'
    -- The same state before the same turn has only one way to go on
    obtain ⟨rfl, rfl⟩ := ih before'
    rw [napped] at napped'
    cases napped'
    exact ⟨rfl, rfl⟩

/-- In front of every turn there are all turns with smaller numbers, each with its nap. -/
theorem earlier (h : j.Before run tell s n waited t) (hm : m < n) :
    ∃ waited₀ t₀ nap waited₁ t₁, j.Before run tell s m waited₀ t₀ ∧
      (j.turn run tell waited₀).run t₀ = (.napped nap waited₁, t₁) := by
  induction h with
  | start => exact absurd hm (Nat.not_lt_zero m)
  | next before napped ih =>
    rcases Nat.lt_succ_iff_lt_or_eq.1 hm with hlt | rfl
    · exact ih hlt
    · exact ⟨_, _, _, _, _, before, napped⟩

/-- Behind a turn with which the loop is over there is none. -/
theorem le_of_done {outcome : Except RunFault RunHandle} {s₁ : σ}
    (h : j.Before run tell s n waited t)
    (hdone : (j.turn run tell waited).run t = (.done outcome, s₁))
    (h' : j.Before run tell s m waited' t') : m ≤ n := by
  -- Otherwise this turn would be in front of the other one and nap as well
  refine Nat.le_of_not_lt fun hlt => ?_
  obtain ⟨_, _, _, _, _, hn, hnapped⟩ := h'.earlier hlt
  obtain ⟨rfl, rfl⟩ := h.unique hn
  exact nomatch hdone.symm.trans hnapped

/-- From every turn on, the loop comes to an end, and with what the running loop comes to. -/
theorem exists_done (fits : j.policy.maxWait.Fits) (h : j.Before run tell s n waited t) :
    ∃ n waited t, j.Before run tell s n waited t ∧
      (j.turn run tell waited).run t =
        (.done ((j.wait run tell).run s).1, ((j.wait run tell).run s).2) := by
  -- Induction on the checks that are left
  induction hleft : j.policy.lastCheck - n using Nat.strongRecOn generalizing n waited t with
  | ind left ih =>
    rcases turn_cases run tell fits (h.le_maxWait fits) t with
      ⟨outcome, s₁, hdone, hrest⟩ | ⟨-, s₁, hnapped, -⟩
    · refine ⟨n, waited, t, h, ?_⟩
      rw [← (h.inTime fits).2.2, hrest]
      exact hdone
    · have hnext := h.next hnapped
      have hlast := (hnext.inTime fits).2.1
      exact ih _ (by omega) hnext rfl

end Before

/-- The spans of the poll loop, whatever the service does.  Before every turn, the time waited is
within the time; the time left and the time waited behind a nap are spans that there are, so that no
turn breaks off.  Every nap is positive and takes away from the time left, and without time left the
loop is over.  There is a last turn, not behind the last check that the policy allows for, and it
comes to what the running loop comes to.  The interval may be any. -/
theorem turns_in_time (j : Job (StateM σ)) (run : String) (tell : Progress → StateM σ Unit)
    (fits : j.policy.maxWait.Fits) (s : σ) :
    (∀ n waited t, j.Before run tell s n waited t →
      waited.nanos ≤ j.policy.maxWait.nanos ∧
      (∃ left nap waited', j.policy.maxWait.minus? waited = some left ∧
        j.policy.nap? waited = some nap ∧ waited.plus? nap = some waited') ∧
      ((j.turn run tell waited).run t).1 ≠ .broken ∧
      (∀ nap waited' t', (j.turn run tell waited).run t = (.napped nap waited', t') →
        0 < nap.nanos ∧ waited'.nanos = waited.nanos + nap.nanos ∧
        j.policy.maxWait.nanos - waited'.nanos < j.policy.maxWait.nanos - waited.nanos) ∧
      (j.policy.maxWait.nanos - waited.nanos = 0 →
        ∃ outcome, ((j.turn run tell waited).run t).1 = .done outcome)) ∧
    ∃ n waited t, j.Before run tell s n waited t ∧
      (j.turn run tell waited).run t =
        (.done ((j.wait run tell).run s).1, ((j.wait run tell).run s).2) ∧
      n ≤ j.policy.lastCheck ∧
      ∀ m waited' t', j.Before run tell s m waited' t' → m ≤ n := by
  constructor
  · intro n waited t h
    -- The time waited never passes the limit, which gives all three spans
    have hle := h.le_maxWait fits
    refine ⟨hle, ⟨_, _, _, Duration.minus?_of_le hle, PollPolicy.nap?_of_le hle,
      PollPolicy.plus?_nap fits hle⟩, ?_⟩
    rcases turn_cases run tell fits hle t with ⟨outcome, s₁, hdone, -⟩ | ⟨hlt, s₁, hnapped, -⟩
    · refine ⟨by simp [hdone], fun _ _ _ hnapped => ?_, fun _ => ⟨outcome, by rw [hdone]⟩⟩
      exact nomatch hdone.symm.trans hnapped
    -- A nap is only taken while time is left, and it takes some of it
    · have hpos := j.policy.nap_pos hlt
      refine ⟨by simp [hnapped], ?_, fun hnone => by omega⟩
      intro nap waited' t' heq
      rw [hnapped] at heq
      cases heq
      refine ⟨hpos, rfl, ?_⟩
      dsimp only
      omega
  -- Positive naps use the time up, so there is a last turn
  · obtain ⟨n, waited, t, h, hdone⟩ :=
      (Before.start : j.Before run tell s 0 .zero s).exists_done fits
    exact ⟨n, waited, t, h, hdone, (h.inTime fits).2.1, fun _ _ _ h' => h.le_of_done hdone h'⟩

/-- A job whose run never stops, checked without an interval for two and a half milliseconds. -/
def hurried : Job (StateM Script.Record) :=
  Script.job ⟨.error (.retrieval ""), fun _ run => .ok ⟨run, .running, none⟩, .ok []⟩
    ⟨.zero, .ofMicros 2500⟩

/-- The last nap is half a millisecond, and the fourth check the last. -/
theorem turns_in_time_hurried :
    hurried.policy.maxWait.Fits ∧
    ∃ n waited t, hurried.Before "r" Script.noteProgress (.fresh 0) n waited t ∧
      (hurried.turn "r" Script.noteProgress waited).run t =
        (.done (.error (.pollTimeout "r" 0 .running)),
          ⟨4, List.replicate 4 (.status "r"),
            [2500, 2000, 1000, 0].map fun us => ⟨"r", .running, .ofMicros us⟩,
            .ofMicros 2500⟩) ∧
      n ≤ 3 := by
  have hfits : hurried.policy.maxWait.Fits := by decide
  obtain ⟨-, n, waited, t, h, hdone, hn, -⟩ :=
    turns_in_time hurried "r" Script.noteProgress hfits (.fresh 0)
  -- What the running loop does is computed
  have houtcome : ((hurried.wait "r" Script.noteProgress).run (.fresh 0)).1 =
      .error (.pollTimeout "r" 0 .running) := by decide +kernel
  have hrecord : ((hurried.wait "r" Script.noteProgress).run (.fresh 0)).2 =
      ⟨4, List.replicate 4 (.status "r"),
        [2500, 2000, 1000, 0].map fun us => ⟨"r", .running, .ofMicros us⟩, .ofMicros 2500⟩ := by
    decide +kernel
  rw [houtcome, hrecord] at hdone
  exact ⟨hfits, n, waited, t, h, hdone, hn⟩

end Job

end TweetHarvest
