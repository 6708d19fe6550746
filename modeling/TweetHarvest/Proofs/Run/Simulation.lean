import TweetHarvest.Proofs.Run.PollLoop

/-!
# Computations seen through a view

Two stateful computations that differ only in what a view of the state hides, or tells otherwise:
seen through the view, one does to a state what the other does to its view.  The steps of a job can
be put together, so two runs of a job that are told of in different ways are compared step by step.

## Key results

- `SeenAs.bind`: computations are compared step by step
- `Job.seenAs_wait`, `Job.seenAs_retrieve`: the phases of a job
-/

namespace TweetHarvest

variable {σ α β : Type} {view : σ → σ}

/-- What `x` does to a state, seen through the view, is what `y` does to the view of the state, and
both give the same. -/
def SeenAs (view : σ → σ) (x y : StateM σ α) : Prop :=
  ∀ s, y.run (view s) = ((x.run s).1, view (x.run s).2)

namespace SeenAs

/-- Results that are there at once are seen alike. -/
theorem pure (a : α) : SeenAs view (Pure.pure a) (Pure.pure a) := fun _ => rfl

/-- What is done step by step is seen alike if each step is. -/
theorem bind {x y : StateM σ α} {f g : α → StateM σ β} (hx : SeenAs view x y)
    (hf : ∀ a, SeenAs view (f a) (g a)) : SeenAs view (x >>= f) (y >>= g) := by
  intro s
  rw [StateT.run_bind, StateT.run_bind, hx s]
  exact hf _ _

end SeenAs

namespace Job

variable {j : Job (StateM σ)}

/-- Checking until there is an outcome, with the checks told in two ways. -/
theorem seenAs_waitFrom {run : String} {tell tell' : Progress → StateM σ Unit}
    (hstatus : SeenAs view (j.service.status run) (j.service.status run))
    (hsleep : ∀ d, SeenAs view (j.sleep d) (j.sleep d))
    (htell : ∀ p, SeenAs view (tell p) (tell' p)) (waited : Duration) :
    SeenAs view (j.waitFrom run tell waited) (j.waitFrom run tell' waited) := by
  -- Induction on the time that is left
  induction hleft : j.policy.maxWait.nanos - waited.nanos using Nat.strongRecOn generalizing waited
    with
  | ind left ih =>
    intro s
    rw [run_waitFrom, run_waitFrom, hstatus s]
    rcases (j.service.status run).run s with ⟨fault | handle, s₁⟩
    · rfl
    · dsimp only
      rw [htell]
      cases hv : j.policy.verdict? run waited handle with
      | some outcome => rfl
      | none =>
        have hlt := PollPolicy.lt_of_verdict?_eq_none hv
        have hpos := j.policy.nap_pos hlt
        dsimp only
        rw [hsleep]
        exact ih _ (by subst hleft; simp only; omega) _ rfl _

/-- Waiting is seen alike if checking, sleeping and telling are. -/
theorem seenAs_wait {run : String} {tell tell' : Progress → StateM σ Unit}
    (hstatus : SeenAs view (j.service.status run) (j.service.status run))
    (hsleep : ∀ d, SeenAs view (j.sleep d) (j.sleep d))
    (htell : ∀ p, SeenAs view (tell p) (tell' p)) :
    SeenAs view (j.wait run tell) (j.wait run tell') :=
  seenAs_waitFrom hstatus hsleep htell .zero

/-- Fetching the dataset of a finished run. -/
theorem seenAs_retrieve
    (hitems : ∀ dataset, SeenAs view (j.service.items dataset) (j.service.items dataset))
    (finished : RunHandle) : SeenAs view (j.retrieve finished) (j.retrieve finished) := by
  unfold retrieve
  split
  · exact .pure _
  · exact (hitems _).bind fun found => match found with
      | .error _ => .pure _
      | .ok _ => .pure _

end Job

end TweetHarvest
