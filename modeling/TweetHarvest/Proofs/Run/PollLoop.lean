import TweetHarvest.Run.Script

/-!
# The poll loop

What `Job.wait` does, check by check.  The loop is followed in a state monad: one step of it is
`Job.run_waitFrom`, and a whole run satisfies whatever its checks establish (`Job.wait_induction`).
The state of the loop before a check is a function of the number of the check, because the sleeps
before it add up to `PollPolicy.waitedBefore`.

## Key results

- `PollPolicy.waitedBefore_succ`: one nap leads from a check to the next
- `PollPolicy.verdict?_waitedBefore_eq_none_iff`: when a check leaves the matter open
- `Job.wait_induction`: an invariant of the checks carries over to the outcome
-/

namespace TweetHarvest

namespace PollPolicy

/-! ## When the checks take place -/

/-- The nanoseconds between two checks, but for the last nap. -/
def period (p : PollPolicy) : Nat := max p.interval.nanos leastNap.nanos

/-- How long has been waited before the check number `k`, counted from zero. -/
def waitedBefore (p : PollPolicy) (k : Nat) : Duration := ⟨min (k * p.period) p.maxWait.nanos⟩

/-- The number of the last check there can be: the time divided by the period, rounded up. -/
def lastCheck (p : PollPolicy) : Nat := (p.maxWait.nanos + p.period - 1) / p.period

/-- No interval makes the checks follow one another without a pause. -/
theorem period_pos (p : PollPolicy) : 0 < p.period := by
  have hleast : leastNap.nanos = 1000000 := rfl
  simp only [period]
  omega

@[simp] theorem waitedBefore_zero (p : PollPolicy) : p.waitedBefore 0 = .zero := by
  simp [waitedBefore, Duration.zero]

/-- The time waited never passes the limit. -/
theorem waitedBefore_le (p : PollPolicy) (k : Nat) :
    (p.waitedBefore k).nanos ≤ p.maxWait.nanos :=
  Nat.min_le_right _ _

/-- One nap leads from a check to the next. -/
theorem waitedBefore_succ (p : PollPolicy) (k : Nat) :
    (⟨(p.waitedBefore k).nanos + (p.nap (p.waitedBefore k)).nanos⟩ : Duration) =
      p.waitedBefore (k + 1) := by
  have hstep : (k + 1) * p.period = k * p.period + p.period := Nat.succ_mul _ _
  have hnap : (p.nap (p.waitedBefore k)).nanos =
      min p.period (p.maxWait.nanos - (p.waitedBefore k).nanos) := rfl
  rw [hnap]
  simp only [waitedBefore, Duration.mk.injEq]
  omega

/-- There is time left before exactly the checks in front of the last one. -/
theorem waitedBefore_lt_iff (p : PollPolicy) (k : Nat) :
    (p.waitedBefore k).nanos < p.maxWait.nanos ↔ k < p.lastCheck := by
  have hpos := p.period_pos
  simp only [waitedBefore, lastCheck]
  rw [← Nat.succ_le_iff (m := k), Nat.le_div_iff_mul_le hpos, Nat.succ_mul]
  omega

/-- The last check takes place when the time is over. -/
theorem waitedBefore_lastCheck (p : PollPolicy) : p.waitedBefore p.lastCheck = p.maxWait := by
  have hlast := p.waitedBefore_lt_iff p.lastCheck
  have hle := p.waitedBefore_le p.lastCheck
  have hsame : (p.waitedBefore p.lastCheck).nanos = p.maxWait.nanos := by omega
  exact congrArg Duration.mk hsame

/-- A check leaves the matter open if the status may still change and it is not the last one. -/
theorem verdict?_waitedBefore_eq_none_iff (p : PollPolicy) (run : String) (k : Nat)
    (h : RunHandle) :
    p.verdict? run (p.waitedBefore k) h = none ↔
      h.status.isTerminal = false ∧ k < p.lastCheck := by
  rw [← waitedBefore_lt_iff]
  simp only [verdict?]
  split <;> simp_all

/-- A status that may still change decides only at the last check, which then is one too late. -/
theorem eq_lastCheck_of_verdict? {p : PollPolicy} {run : String} {k : Nat} {h : RunHandle}
    {outcome : Except RunFault RunHandle} (hk : k ≤ p.lastCheck)
    (hopen : h.status.isTerminal = false)
    (hv : p.verdict? run (p.waitedBefore k) h = some outcome) :
    k = p.lastCheck ∧ outcome = .error (.pollTimeout run p.maxWait.seconds h.status) := by
  -- With time left, an open status would have decided nothing
  have hno := mt (p.verdict?_waitedBefore_eq_none_iff run k h).2 (by simp [hv])
  have hlast : k = p.lastCheck := by
    simp only [hopen, true_and] at hno
    omega
  refine ⟨hlast, ?_⟩
  rw [hlast, p.waitedBefore_lastCheck] at hv
  simpa [verdict?, hopen] using hv.symm

end PollPolicy

namespace Job

variable {σ : Type} (j : Job (StateM σ)) (run : String) (tell : Progress → StateM σ Unit)

/-! ## One check, and a whole run -/

/-- One turn of the loop: a check, and what its answer leads to. -/
theorem run_waitFrom (waited : Duration) (s : σ) :
    (j.waitFrom run tell waited).run s =
      match (j.service.status run).run s with
      | (.error fault, s₁) => (.error fault, s₁)
      | (.ok handle, s₁) =>
        match j.policy.verdict? run waited handle with
        | some outcome => (outcome, ((tell ⟨run, handle.status, waited⟩).run s₁).2)
        | none =>
          (j.waitFrom run tell ⟨waited.nanos + (j.policy.nap waited).nanos⟩).run
            ((j.sleep (j.policy.nap waited)).run
              ((tell ⟨run, handle.status, waited⟩).run s₁).2).2 := by
  rw [waitFrom]
  simp only [StateT.run_bind]
  -- A fault of the service ends the loop at once
  rcases (j.service.status run).run s with ⟨_ | handle, s₁⟩
  · rfl
  · show StateT.run _ _ = _
    dsimp only
    rw [StateT.run_bind]
    split
    · next hv => simp only [hv]; rfl
    · next hv => simp only [hv]; rfl

/-- What holds before the first check and is kept by every check that leaves the matter open holds
before the check that decides.  `P k` is the invariant before the check number `k`. -/
theorem wait_induction {P : Nat → σ → Prop} {Q : Except RunFault RunHandle → σ → Prop}
    (failed : ∀ k s fault s₁, P k s → (j.service.status run).run s = (.error fault, s₁) →
      Q (.error fault) s₁)
    (decided : ∀ k s handle s₁ outcome, P k s →
      (j.service.status run).run s = (.ok handle, s₁) →
      j.policy.verdict? run (j.policy.waitedBefore k) handle = some outcome →
      Q outcome ((tell ⟨run, handle.status, j.policy.waitedBefore k⟩).run s₁).2)
    (undecided : ∀ k s handle s₁, P k s → (j.service.status run).run s = (.ok handle, s₁) →
      j.policy.verdict? run (j.policy.waitedBefore k) handle = none →
      P (k + 1) ((j.sleep (j.policy.nap (j.policy.waitedBefore k))).run
        ((tell ⟨run, handle.status, j.policy.waitedBefore k⟩).run s₁).2).2)
    {s : σ} (start : P 0 s) :
    Q ((j.wait run tell).run s).1 ((j.wait run tell).run s).2 := by
  -- Induction on the checks that are left; `waitedBefore` ties the time waited to the number.
  suffices ∀ n k s, n = j.policy.lastCheck - k → P k s →
      Q ((j.waitFrom run tell (j.policy.waitedBefore k)).run s).1
        ((j.waitFrom run tell (j.policy.waitedBefore k)).run s).2 by
    have := this _ 0 s rfl start
    rwa [PollPolicy.waitedBefore_zero] at this
  intro n
  induction n using Nat.strongRecOn with
  | ind n ih =>
    intro k s hn hP
    rw [run_waitFrom]
    rcases hs : (j.service.status run).run s with ⟨fault | handle, s₁⟩
    · exact failed k s fault s₁ hP hs
    · cases hv : j.policy.verdict? run (j.policy.waitedBefore k) handle with
      | some outcome => simpa only [hv] using decided k s handle s₁ outcome hP hs hv
      | none =>
        have hk := ((j.policy.verdict?_waitedBefore_eq_none_iff run k handle).1 hv).2
        have hnext := ih _ (by omega) (k + 1) _ rfl (undecided k s handle s₁ hP hs hv)
        simpa only [hv, PollPolicy.waitedBefore_succ] using hnext

end Job

end TweetHarvest
