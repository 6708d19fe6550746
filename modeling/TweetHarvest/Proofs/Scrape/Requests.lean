import TweetHarvest.Proofs.Scrape.Protocol
import TweetHarvest.Proofs.Scrape.Saving

/-!
# The requests of a scrape

What a whole scrape sends to the service, for every peer: the requests follow the protocol, and the
answers alone decide which of them is the last one and how the scrape ends.

## Key results

- `Scrape.collect_collected`: collecting in a world keeps to the protocol
- `Scrape.Collected.served`, `Scrape.Collected.eq_noData_iff`: what the fetched dataset decides
- `Scrape.run_prepared`: a scrape collects in a world and saves there
- `Scrape.run_told`: a scrape keeps to the protocol, concludes with what it has found and tells of
  it on the way
- `Scrape.run_requests`: the requests and the outcome of a scrape
-/

namespace TweetHarvest

open Json (Value)

namespace Scrape

/-- The exchanges of a scrape without saving, in a world that is otherwise left as it is. -/
structure Collected (c : Client) (input : RunInput) (p : PollPolicy) (username : String)
    (w w' : World) (start checks fetch : List Exchange)
    (result : Except ScrapeFault (String × List Value)) : Prop where
  same : World.SameSurroundings w w'
  exchanges : w'.exchanges = w.exchanges ++ (start ++ checks ++ fetch)
  asks : Asks c input start checks fetch
  obeys : Obeys c p start checks fetch result
  /-- Only the fetched dataset ends a scrape otherwise than with a fault of the run. -/
  fetched : (∀ fault, result ≠ .error (.run fault)) → ∃ e dataset items, fetch = [e] ∧
    e.request = c.itemsRequest dataset ∧ e.items = .ok items ∧
    result = harvested username (.ok (dataset, items))

section Collected

variable {c : Client} {input : RunInput} {p : PollPolicy} {username : String} {w w' : World}
  {start checks fetch : List Exchange} {result : Except ScrapeFault (String × List Value)}
  (h : Collected c input p username w w' start checks fetch result)

include h

/-- What has been found is the dataset that has been served, and there is something in it. -/
theorem Collected.served (dataset : String) (items : List Value)
    (hresult : result = .ok (dataset, items)) : ∃ e, fetch = [e] ∧
      e.request = c.itemsRequest dataset ∧ e.items = .ok items ∧ items ≠ [] := by
  obtain ⟨e, found, served, hfetch, hrequest, hitems, hends⟩ := h.fetched (by simp [hresult])
  obtain ⟨hfound, hne⟩ := harvested_eq_ok_iff.1 (hends.symm.trans hresult)
  cases hfound
  exact ⟨e, hfetch, hrequest, hitems, hne⟩

/-- There are no data where the dataset has been served with nothing in it, and nowhere else. -/
theorem Collected.eq_noData_iff (name : String) :
    result = .error (.noData name) ↔ name = username ∧ ∃ e ∈ fetch, e.items = .ok [] := by
  constructor
  · intro hresult
    obtain ⟨e, dataset, items, hfetch, -, hitems, hends⟩ := h.fetched (by simp [hresult])
    rw [hresult] at hends
    cases items with
    | nil => exact ⟨by simpa [harvested] using hends, e, by simp [hfetch], hitems⟩
    | cons item rest => simp [harvested] at hends
  · rintro ⟨rfl, e, he, hitems⟩
    obtain ⟨e', dataset, items, hfetch, -, hitems', hends⟩ :=
      h.fetched fun fault => h.obeys.fetch_answered e he [] hitems fault
    -- There is one fetch at most
    rw [hfetch, List.mem_singleton] at he
    subst he
    rw [hitems] at hitems'
    cases hitems'
    exact hends

end Collected

/-- What is told of a run on the way: that it has been started, and every check with an answer. -/
def tidings (p : PollPolicy) (start checks : List Exchange) : List String :=
  (start.filterMap (·.handle.toOption)).flatMap fun handle =>
    submittedMessage handle :: (progressOn p handle.id checks).map progressMessage

/-- What is told on the way of a run that has been started. -/
theorem tidings_of_started {p : PollPolicy} {start checks : List Exchange}
    (hstart : start.length ≤ 1) {e : Exchange} (he : e ∈ start) {handle : RunHandle}
    (hhandle : e.handle = .ok handle) :
    tidings p start checks =
      submittedMessage handle :: (progressOn p handle.id checks).map progressMessage := by
  obtain ⟨first, rfl⟩ : ∃ first, start = [first] :=
    List.length_eq_one_iff.1 (Nat.le_antisymm hstart (List.length_pos_of_mem he))
  obtain rfl := List.mem_singleton.1 he
  simp [tidings, hhandle, Except.toOption]

/-- The lines of messages that are told in strict mode only. -/
def strictLines (o : ScrapeOptions) (say : Envelope → String) (messages : List String) :
    List String :=
  if o.strict then messages.map fun message => say (.processing message) else []

/-- The lines of strict mode are told one after the other. -/
theorem strictLines_append (o : ScrapeOptions) (say : Envelope → String)
    (front back : List String) :
    strictLines o say (front ++ back) = strictLines o say front ++ strictLines o say back := by
  unfold strictLines
  split
  · exact List.map_append
  · rfl

/-- Messages that are told one by one. -/
theorem strictLines_map {α : Type} (o : ScrapeOptions) (say : Envelope → String)
    (message : α → String) (as : List α) :
    strictLines o say (as.map message) = as.flatMap fun a => strictLines o say [message a] := by
  induction as with
  | nil => simp [strictLines]
  | cons a as ih =>
    rw [List.map_cons, List.flatMap_cons, ← ih, ← strictLines_append]
    rfl

/-- What is told on the way changes nothing but the lines printed. -/
theorem run_tellIfStrict (o : ScrapeOptions) (say : Envelope → String) (message : String)
    (w : World) :
    ((tellIfStrict o (fun e => World.printLine (say e)) message).run w).2 =
      w.printed (strictLines o say [message]) := by
  simp only [tellIfStrict, strictLines]
  split <;> rfl

/-- A fault in submitting the run is what collecting comes to. -/
private theorem run_collect_of_error (here : Location) (say : Envelope → String)
    (o : ScrapeOptions) {s : Settings} {r : JobRequest} {fault : RunFault} {w w₁ : World}
    (h : ((job (World.machine here) s).submit (RunInput.ofRequest s r)).run w =
      (.error fault, w₁)) :
    (collect (World.machine here) (fun e => World.printLine (say e)) o s r).run w =
      (.error (.run fault), w₁) := by
  simp only [collect, StateT.run_bind]
  rw [h]
  rfl

/-- A run that has been started is told of, and then its dataset is harvested. -/
private theorem run_collect_of_ok (here : Location) (say : Envelope → String) (o : ScrapeOptions)
    {s : Settings} {r : JobRequest} {handle : RunHandle} {w w₁ : World}
    (h : ((job (World.machine here) s).submit (RunInput.ofRequest s r)).run w =
      (.ok handle, w₁)) :
    (collect (World.machine here) (fun e => World.printLine (say e)) o s r).run w =
      let found := (harvest (World.machine here)
        (fun p => tellIfStrict o (fun e => World.printLine (say e)) (progressMessage p)) s
        handle.id).run (w₁.printed (strictLines o say [submittedMessage handle]))
      (harvested r.username found.1, found.2) := by
  simp only [collect, StateT.run_bind]
  rw [h, ← run_tellIfStrict o say (submittedMessage handle) w₁]
  rfl

/-- Collecting in a world. -/
theorem collect_collected (here : Location) (say : Envelope → String) (o : ScrapeOptions)
    (s : Settings) (r : JobRequest) (w : World) :
    ∃ start checks fetch, Collected (Client.ofSettings s) (RunInput.ofRequest s r) s.poll r.username
      w ((collect (World.machine here) (fun e => World.printLine (say e)) o s r).run w).2
      start checks fetch
      ((collect (World.machine here) (fun e => World.printLine (say e)) o s r).run w).1 ∧
      World.Prints w
        ((collect (World.machine here) (fun e => World.printLine (say e)) o s r).run w).2
        (strictLines o say (tidings s.poll start checks)) := by
  let c := Client.ofSettings s
  let asked := c.startRequest (RunInput.ofRequest s r)
  let j := job (World.machine here) s
  have hnone : strictLines o say [] = [] := ite_self []
  -- A client that cannot send anything fails at once
  by_cases hable : c.Able
  · let first : Exchange := ⟨asked, w.answerTo asked⟩
    have hsubmit : (j.submit (RunInput.ofRequest s r)).run w =
        (first.handle.mapError (.submission c.actor), w.sent asked) := Client.run_start hable _ w
    -- The run is known from the first answer, or there is none
    cases hfirst : first.handle with
    | error message =>
      rw [hfirst] at hsubmit
      rw [run_collect_of_error here say o hsubmit]
      have htidings : tidings s.poll [first] [] = [] := by simp [tidings, hfirst, Except.toOption]
      refine ⟨[first], [], [], ⟨w.sameSurroundings_sent asked, by simp [first, asked],
        asks_of_unstarted (by simp) (by simp [first, asked, c]),
        obeys_of_unstarted (by simp) (by simpa using hfirst), fun hno => absurd rfl (hno _)⟩, ?_⟩
      rw [htidings, hnone]
      exact (World.Prints.refl w).congr rfl rfl
    | ok handle =>
      rw [hfirst] at hsubmit
      rw [run_collect_of_ok here say o hsubmit]
      let w₁ := (w.sent asked).printed (strictLines o say [submittedMessage handle])
      have hquiet : World.Silent (w.sent asked) w₁ := World.silent_printed _ _
      obtain ⟨before, last, fetch, outcome, w₂, hw, hsame, hexchanges, hprints, hr⟩ :=
        harvest_waited here hable handle.id
          (fun p => run_tellIfStrict o say (progressMessage p)) w₁
      refine ⟨[first], before ++ [last], fetch, ⟨?_, ?_, asks_of_waited rfl hfirst hw hr,
        obeys_of_waited hfirst hw hr (endsLike_harvested _ _), ?_⟩, ?_⟩
      · exact (w.sameSurroundings_sent asked).trans
          (hquiet.toSameSurroundings.trans (hw.checked.same.trans hsame))
      · rw [hexchanges, hw.checked.exchanges, hquiet.exchanges_eq, World.exchanges_sent]
        simp [first]
      · intro hno
        rcases hfound : ((harvest (World.machine here) _ s handle.id).run w₁).1 with
          fault | ⟨dataset, items⟩
        · exact absurd (congrArg (harvested r.username) hfound) (hno fault)
        · obtain ⟨e, hfetch, hrequest, hitems⟩ := hr.of_ok hfound
          exact ⟨e, dataset, items, hfetch, hrequest, hitems,
            congrArg (harvested r.username) hfound⟩
      -- The run is told first, and then its checks
      · have hone : [first].length ≤ 1 := Nat.le_refl 1
        rw [tidings_of_started hone (List.mem_singleton_self first) hfirst]
        show World.Prints w _ (strictLines o say ([submittedMessage handle] ++ _))
        rw [strictLines_append, strictLines_map]
        have htold : World.Prints w w₁ (strictLines o say [submittedMessage handle]) :=
          (World.prints_printed (w.sent asked) _).congr rfl rfl
        exact htold.trans hprints
  · obtain ⟨fault, hsubmit⟩ := Client.run_start_of_not_able hable (RunInput.ofRequest s r) w
    have hsubmit : (j.submit (RunInput.ofRequest s r)).run w = _ := hsubmit
    rw [run_collect_of_error here say o hsubmit]
    refine ⟨[], [], [], ⟨(World.Silent.refl w).toSameSurroundings, by simp,
      asks_of_unstarted (by simp) (by simp), obeys_of_unstarted (fun _ => hable) (by simp),
      fun hno => absurd rfl (hno _)⟩, ?_⟩
    show World.Prints w w (strictLines o say [])
    rw [hnone]
    exact .refl w

/-- Where the options are in order, the start is told, and the actor is run. -/
theorem run_eq_scrape (here : Location) (say : Envelope → String) {env : Environment}
    (shared : Path) {o : ScrapeOptions} {r : JobRequest} {s : Settings}
    (h : prepare o env = .ok (r, s)) (w : World) :
    (run (World.machine here) (fun e => World.printLine (say e)) env shared o).run w =
      (scrape (World.machine here) (fun e => World.printLine (say e)) o shared s r).run
        (w.printed [say (.processing (startMessage r))]) := by
  -- The start is told before anything is sent
  have hrun : run (World.machine here) (fun e => World.printLine (say e)) env shared o =
      World.printLine (say (.processing (startMessage r))) >>= fun _ =>
        scrape (World.machine here) (fun e => World.printLine (say e)) o shared s r := by
    simp only [run, h]
  rw [hrun, StateT.run_bind]
  rfl

/-- Where the options are in order, a scrape collects in a world and saves there. -/
theorem run_prepared (here : Location) (say : Envelope → String) {env : Environment} (shared : Path)
    {o : ScrapeOptions} {r : JobRequest} {s : Settings} (h : prepare o env = .ok (r, s))
    (w : World) :
    (run (World.machine here) (fun e => World.printLine (say e)) env shared o).run w =
      match (collect (World.machine here) (fun e => World.printLine (say e)) o s r).run
        (w.printed [say (.processing (startMessage r))]) with
      | (.error fault, w') => (.error fault, w')
      | (.ok (dataset, items), w') =>
        (save (World.machine here) o shared r dataset items).run w' := by
  rw [run_eq_scrape here say shared h, scrape_eq, StateT.run_bind]
  rcases (collect (World.machine here) (fun e => World.printLine (say e)) o s r).run _ with
    ⟨fault | ⟨dataset, items⟩, w'⟩ <;> rfl

/-- What follows a success in collecting does not matter for the protocol, as long as it is no fault
of the run. -/
theorem Obeys.of_found {c : Client} {p : PollPolicy} {start checks fetch : List Exchange}
    {found : Except ScrapeFault α} {result : Except ScrapeFault β}
    (h : Obeys c p start checks fetch found)
    (hfault : ∀ fault, found = .error fault → result = .error fault)
    (hfound : ∀ a, found = .ok a → ∀ fault, result ≠ .error (.run fault)) :
    Obeys c p start checks fetch result where
  unsent hstart := (h.unsent hstart).imp id (Exists.imp fun _ => hfault _)
  start_failed e he message hm :=
    have ⟨hchecks, hfetch, hresult⟩ := h.start_failed e he message hm
    ⟨hchecks, hfetch, hfault _ hresult⟩
  start_answered := h.start_answered
  check_failed before e after message hsplit hm :=
    have ⟨hafter, hfetch, run, hrun, hresult⟩ := h.check_failed before e after message hsplit hm
    ⟨hafter, hfetch, run, hrun, hfault _ hresult⟩
  check_final := h.check_final
  ended e handle he hok hterminal hne :=
    have ⟨hfetch, run, hrun, hresult⟩ := h.ended e handle he hok hterminal hne
    ⟨hfetch, run, hrun, hfault _ hresult⟩
  timed_out e handle he hok hopen :=
    have ⟨hlength, hfetch, run, hrun, hresult⟩ := h.timed_out e handle he hok hopen
    ⟨hlength, hfetch, run, hrun, hfault _ hresult⟩
  no_dataset e handle he hok hstatus hnone :=
    have ⟨hfetch, hresult⟩ := h.no_dataset e handle he hok hstatus hnone
    ⟨hfetch, hfault _ hresult⟩
  dataset := h.dataset
  fetch_failed e he message hm :=
    have ⟨dataset, hdataset, hresult⟩ := h.fetch_failed e he message hm
    ⟨dataset, hdataset, hfault _ hresult⟩
  fetch_answered e he items hitems fault := by
    cases hf : found with
    -- A fault in collecting is the result, so what excludes it there excludes it here
    | error cause =>
      intro hresult
      rw [hfault cause hf] at hresult
      cases hresult
      exact h.fetch_answered e he items hitems fault hf
    | ok a => exact hfound a hf fault

/-- A failure to save is no fault of the run. -/
theorem savedResult_ne_run (envelope : Path → Envelope) (saved : Except Archive.Fault Path)
    (fault : RunFault) : savedResult envelope saved ≠ .error (.run fault) := by
  cases saved <;> simp [savedResult]

section Run

variable (here : Location) (say : Envelope → String) {env : Environment} (shared : Path)
  {o : ScrapeOptions} (reply : Nat → Http.Request → Http.Outcome) (time : Instant) (disk : Disk)

/-- Options that are not in order end a scrape at once. -/
theorem run_unprepared {fault : ScrapeFault} (h : prepare o env = .error fault) :
    (run (World.machine here) (fun e => World.printLine (say e)) env shared o).run
      (World.start reply time disk) = (.error fault, World.start reply time disk) := by
  simp only [run, h]
  rfl

/-- How a scrape ends, and what it leaves of a disk, after something has been found. -/
def conclude (o : ScrapeOptions) (r : JobRequest) :
    Except ScrapeFault (String × List Value) → Except ScrapeFault Envelope × Disk
  | .error fault => (.error fault, disk)
  | .ok (dataset, items) =>
    let saved := (Archive.save (.ofDisk here) (savedValue o r dataset items time)
      (Archive.directory shared) (savedName o r time) (savedTitle o)).run disk
    (savedResult (savedEnvelope o r dataset items time) saved.1, saved.2)

/-- Where the options are in order, a scrape keeps to the protocol, concludes with what it has found
and tells of it on the way. -/
theorem run_told {r : JobRequest} {s : Settings} (h : prepare o env = .ok (r, s)) :
    let done := (run (World.machine here) (fun e => World.printLine (say e)) env shared o).run
      (World.start reply time disk)
    ∃ start checks fetch found,
      World.exchangesOf reply done.2.requests = start ++ checks ++ fetch ∧
      (done.1, done.2.disk) = conclude here shared time disk o r found ∧
      (∃ w, Collected (Client.ofSettings s) (RunInput.ofRequest s r) s.poll r.username
        (World.start reply time disk) w start checks fetch found) ∧
      done.2.lines.reverse = say (.processing (startMessage r)) ::
        strictLines o say (tidings s.poll start checks) := by
  intro done
  have hdone : done = _ := run_prepared here say shared h (World.start reply time disk)
  have htold := (World.start reply time disk).silent_printed [say (.processing (startMessage r))]
  obtain ⟨start, checks, fetch, hc, hprints⟩ := collect_collected here say o s r
    ((World.start reply time disk).printed [say (.processing (startMessage r))])
  generalize (collect (World.machine here) (fun e => World.printLine (say e)) o s r).run
    ((World.start reply time disk).printed [say (.processing (startMessage r))]) = collected
    at hc hprints hdone
  obtain ⟨found, w⟩ := collected
  have hsame : World.SameSurroundings (World.start reply time disk) w :=
    htold.toSameSurroundings.trans hc.same
  have hexchanges := hc.exchanges
  -- What is told first is no exchange
  rw [htold.exchanges_eq] at hexchanges
  have hrequests : World.exchangesOf reply w.requests = start ++ checks ++ fetch := by
    rw [World.exchanges_start, List.nil_append, World.exchanges, hsame.reply] at hexchanges
    exact hexchanges
  have hlines : w.lines.reverse = say (.processing (startMessage r)) ::
      strictLines o say (tidings s.poll start checks) := by
    have hall : World.Prints (World.start reply time disk) w _ :=
      (World.prints_printed _ _).trans hprints
    rw [hall, List.reverse_append, List.reverse_reverse]
    rfl
  refine ⟨start, checks, fetch, found, ?_, ?_, ⟨w, hsame, hexchanges, hc.asks, hc.obeys,
    hc.fetched⟩, ?_⟩
  · rw [hdone]
    rcases found with fault | ⟨dataset, items⟩
    · exact hrequests
    · dsimp only
      rw [run_save]
      exact hrequests
  · rw [hdone]
    rcases found with fault | ⟨dataset, items⟩
    · exact congrArg _ hsame.disk
    · dsimp only
      rw [run_save, hsame.disk, hsame.time]
      rfl
  · rw [hdone]
    rcases found with fault | ⟨dataset, items⟩
    · exact hlines
    · dsimp only
      rw [run_save]
      exact hlines

/-- Where the options are in order, a scrape keeps to the protocol and concludes with what it has
found. -/
theorem run_collected {r : JobRequest} {s : Settings} (h : prepare o env = .ok (r, s)) :
    let done := (run (World.machine here) (fun e => World.printLine (say e)) env shared o).run
      (World.start reply time disk)
    ∃ start checks fetch found,
      World.exchangesOf reply done.2.requests = start ++ checks ++ fetch ∧
      (done.1, done.2.disk) = conclude here shared time disk o r found ∧
      ∃ w, Collected (Client.ofSettings s) (RunInput.ofRequest s r) s.poll r.username
        (World.start reply time disk) w start checks fetch found := by
  obtain ⟨start, checks, fetch, found, hexchanges, hdone, hc, -⟩ :=
    run_told here say shared reply time disk h
  exact ⟨start, checks, fetch, found, hexchanges, hdone, hc⟩

end Run

/-- The requests and the outcome of a scrape.  Options that are not in order send nothing.
Otherwise the exchanges are those with which a run is asked for, checked and its dataset fetched, and
the answers decide which request is the last one and how the scrape ends. -/
theorem run_requests (here : Location) (say : Envelope → String) (env : Environment) (shared : Path)
    (o : ScrapeOptions) (reply : Nat → Http.Request → Http.Outcome) (time : Instant)
    (disk : Disk) :
    let done := (run (World.machine here) (fun e => World.printLine (say e)) env shared o).run
      (World.start reply time disk)
    (∃ fault, prepare o env = .error fault ∧ done.1 = .error fault ∧ done.2.requests = []) ∨
    ∃ r s start checks fetch, prepare o env = .ok (r, s) ∧
      World.exchangesOf reply done.2.requests = start ++ checks ++ fetch ∧
      Asks (Client.ofSettings s) (RunInput.ofRequest s r) start checks fetch ∧
      Obeys (Client.ofSettings s) s.poll start checks fetch done.1 := by
  intro done
  cases hprepare : prepare o env with
  | error fault =>
    -- Options that are not in order end the scrape before anything is sent
    have hdone : done = _ := run_unprepared here say shared reply time disk hprepare
    exact .inl ⟨fault, rfl, by rw [hdone], by rw [hdone]; rfl⟩
  | ok prepared =>
    obtain ⟨r, s⟩ := prepared
    obtain ⟨start, checks, fetch, found, hexchanges, hdone, w, hc⟩ :=
      run_collected here say shared reply time disk hprepare
    refine .inr ⟨r, s, start, checks, fetch, rfl, hexchanges, hc.asks, ?_⟩
    -- The answers decide what has been collected, and saving adds no fault of the run
    have hresult : done.1 = (conclude here shared time disk o r found).1 := congrArg Prod.fst hdone
    rw [hresult]
    rcases found with fault | ⟨dataset, items⟩
    · exact hc.obeys.of_found (fun _ h => by cases h; rfl) fun _ h => nomatch h
    · exact hc.obeys.of_found (fun _ h => nomatch h) fun _ _ => savedResult_ne_run _ _

end Scrape

end TweetHarvest
