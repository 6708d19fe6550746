import TweetHarvest.Proofs.Run.Simulation
import TweetHarvest.Proofs.Scrape.Results

/-!
# Strict and lenient scrapes

Strict mode tells more of a scrape and checks the token, and that is all.  A scrape that tells
nothing is the same in both modes, and every scrape looks like that one to somebody who does not see
what is printed.

## Key results

- `Scrape.prepare_congr`: a token of the usual form passes the check of strict mode
- `Scrape.seenAs_scrape`: a scrape is a mute one but for the lines printed
- `Scrape.scrape_mute_congr`: a mute scrape is the same in both modes
- `Scrape.run_strictness`: the modes differ in nothing but what is told on the way
-/

namespace TweetHarvest

open Json (Value Decoder)

namespace World

/-- A world with other lines in place of those that have been printed. -/
def relined (lines : List String) (w : World) : World := { w with lines }

variable {lines : List String}

/-- Sending does not depend on what has been printed. -/
theorem seenAs_send (r : Http.Request) : SeenAs (relined lines) (send r) (send r) := fun _ => rfl

/-- What is printed cannot be seen. -/
theorem seenAs_printLine (line : String) :
    SeenAs (relined lines) (printLine line) (Pure.pure ()) := fun _ => rfl

/-- Requests are carried out whatever has been printed. -/
theorem seenAs_execute (r : Http.Request) (d : Decoder α) :
    SeenAs (relined lines) (Client.execute send r d) (Client.execute send r d) := by
  unfold Client.execute
  split
  · exact .pure _
  · exact (seenAs_send r).bind fun _ => .pure _

end World

namespace Scrape

variable {lines : List String} (here : Location) (say : Envelope → String) (o : ScrapeOptions)
  (shared : Path) (s : Settings) (r : JobRequest)

/-! ## Scrapes that tell nothing -/

/-- Tells nothing. -/
def mute (_ : Envelope) : StateM World Unit := pure ()

/-- Who is mute tells nothing in either mode. -/
theorem tellIfStrict_mute (message : String) : tellIfStrict o mute message = pure () := ite_self _

/-- But for the lines, telling is the same as being mute. -/
theorem seenAs_tellIfStrict (message : String) :
    SeenAs (World.relined lines) (tellIfStrict o (fun e => World.printLine (say e)) message)
      (tellIfStrict o mute message) := by
  unfold tellIfStrict
  split
  · exact World.seenAs_printLine _
  · exact .pure _

/-- Saving does not depend on what has been printed. -/
theorem seenAs_save (dataset : String) (items : List Value) :
    SeenAs (World.relined lines) (save (World.machine here) o shared r dataset items)
      (save (World.machine here) o shared r dataset items) := by
  intro w
  rw [run_save, run_save]
  rfl

/-- A scrape is a mute one but for the lines printed. -/
theorem seenAs_scrape :
    SeenAs (World.relined lines)
      (scrape (World.machine here) (fun e => World.printLine (say e)) o shared s r)
      (scrape (World.machine here) mute o shared s r) := by
  refine .bind (.bind (World.seenAs_execute _ _) fun _ => .pure _) fun submitted => ?_
  cases submitted with
  | error fault => exact .pure _
  | ok handle =>
    -- Something is told at two points, and the view hides it at both
    refine .bind (seenAs_tellIfStrict say o _) fun _ => ?_
    refine .bind (Job.seenAs_wait (.bind (World.seenAs_execute _ _) fun _ => .pure _)
      (fun _ _ => rfl) fun p => seenAs_tellIfStrict say o _) fun waited => ?_
    cases waited with
    | error fault => exact .pure _
    | ok finished =>
      refine .bind (Job.seenAs_retrieve (fun _ => .bind (World.seenAs_execute _ _) fun _ => .pure _)
        finished) fun retrieved => ?_
      rcases retrieved with fault | ⟨dataset, items⟩
      · exact .pure _
      · dsimp only
        split
        · exact .pure _
        · exact seenAs_save here o shared r dataset items

/-- A mute scrape is the same in both modes. -/
theorem scrape_mute_congr (strict : Bool) :
    scrape (World.machine here) mute { o with strict } shared s r =
      scrape (World.machine here) mute o shared s r := by
  simp only [scrape, tellIfStrict_mute]
  rfl

/-! ## The two modes -/

/-- The token without blanks around it, if there is one, starts like those of the service. -/
def UsualToken (o : ScrapeOptions) : Prop :=
  ∀ token, o.token.bind Text.trim? = some token →
    ScrapeOptions.tokenStart.toList <+: token.toList

/-- A token of the usual form passes the check of strict mode. -/
theorem prepare_congr {o : ScrapeOptions} (h : UsualToken o) (strict : Bool) (env : Environment) :
    prepare { o with strict } env = prepare { o with strict := false } env := by
  -- Strict mode looks at the start of the token, and nowhere else
  have hcredential : ScrapeOptions.credential { o with strict } =
      ScrapeOptions.credential { o with strict := false } := by
    unfold ScrapeOptions.credential
    dsimp only
    split
    · rfl
    · next token htoken =>
      have hstart := List.isPrefixOf_iff_prefix.2 (h token htoken)
      rw [hstart, Bool.not_true, Bool.and_false, Bool.and_false]
  have hhandle : ScrapeOptions.handle { o with strict } env =
      ScrapeOptions.handle { o with strict := false } env := rfl
  have hsettings : ∀ token, ScrapeOptions.settings { o with strict } token =
      ScrapeOptions.settings { o with strict := false } token := by
    intro token
    simp only [ScrapeOptions.settings]
  simp only [prepare, hcredential, hhandle, hsettings]

/-- Strict and lenient scrapes give the same, send the same requests, take the same time and leave
the same on the disk, if the token starts like those of the service.  A lenient scrape tells exactly
the first thing that the strict one tells, if there is one. -/
theorem run_strictness (here : Location) (say : Envelope → String) (env : Environment)
    (shared : Path) {o : ScrapeOptions} (htoken : UsualToken o)
    (reply : Nat → Http.Request → Http.Outcome) (time : Instant) (disk : Disk) :
    let done (strict : Bool) :=
      (run (World.machine here) (fun e => World.printLine (say e)) env shared { o with strict }).run
        (World.start reply time disk)
    (done true).1 = (done false).1 ∧ (done true).2.requests = (done false).2.requests ∧
    (done true).2.slept = (done false).2.slept ∧ (done true).2.disk = (done false).2.disk ∧
    (done false).2.lines.reverse = (done true).2.lines.reverse.take 1 := by
  intro done
  have hprepare := fun strict => prepare_congr htoken strict env
  cases hlenient : prepare { o with strict := false } env with
  | error fault =>
    have hdone : ∀ strict, done strict = (.error fault, World.start reply time disk) :=
      fun strict => run_unprepared here say shared reply time disk <|
        (hprepare strict).trans hlenient
    rw [hdone, hdone]
    exact ⟨rfl, rfl, rfl, rfl, rfl⟩
  | ok prepared =>
    obtain ⟨r, s⟩ := prepared
    have hok := fun strict => (hprepare strict).trans hlenient
    -- Both modes look like a mute scrape in the world where the start has been told
    let w := (World.start reply time disk).printed [say (.processing (startMessage r))]
    let mute := (scrape (World.machine here) mute o shared s r).run (w.relined [])
    have hmute : ∀ strict, mute = ((done strict).1, (done strict).2.relined []) := by
      intro strict
      have hdone : done strict = _ := run_eq_scrape here say shared (hok strict) _
      have hseen : SeenAs (World.relined []) _ _ :=
        seenAs_scrape here say { o with strict } shared s r
      rw [scrape_mute_congr] at hseen
      rw [hdone]
      exact hseen w
    obtain ⟨hresult, hworld⟩ := Prod.mk.inj ((hmute true).symm.trans (hmute false))
    have hrequests := congrArg World.requests hworld
    have hslept := congrArg World.slept hworld
    have hdisk := congrArg World.disk hworld
    refine ⟨hresult, hrequests, hslept, hdisk, ?_⟩
    -- The lines are hidden by the view, so they are taken from each of the two runs
    obtain ⟨start, checks, _, _, -, -, -, hstrict⟩ :=
      run_told here say shared reply time disk (hok true)
    obtain ⟨_, _, _, _, -, -, -, hlenient⟩ := run_told here say shared reply time disk (hok false)
    show (done false).2.lines.reverse = (done true).2.lines.reverse.take 1
    rw [hstrict, hlenient]
    rfl

/-- The token of the sample scrape passes the check of strict mode, and its modes agree. -/
theorem run_strictness_sample :
    let done (strict : Bool) :=
      (run (World.machine []) (fun e => World.printLine e.compact) ⟨[]⟩ (.ofText "/shared")
        { sampleOptions with strict }).run
        (World.start (serving "[]") Archive.afternoon Archive.emptyDisk)
    UsualToken sampleOptions ∧ (done true).1 = (done false).1 ∧
    (done true).2.requests = (done false).2.requests ∧
    (done false).2.lines.reverse = (done true).2.lines.reverse.take 1 := by
  intro done
  have htrim : sampleOptions.token.bind Text.trim? = some "apify_api_test" := by decide +kernel
  have htoken : UsualToken sampleOptions := by
    intro token h
    obtain rfl := Option.some.inj (htrim.symm.trans h)
    decide +kernel
  obtain ⟨hresult, hrequests, -, -, hlines⟩ :=
    run_strictness [] Envelope.compact ⟨[]⟩ (.ofText "/shared") htoken (serving "[]")
      Archive.afternoon Archive.emptyDisk
  exact ⟨htoken, hresult, hrequests, hlines⟩

end Scrape

end TweetHarvest
