import TweetHarvest.Proofs.Archive.Rereading
import TweetHarvest.Proofs.Scrape.Disk
import TweetHarvest.Proofs.Timeline.Recognized

/-!
# What a scrape finds

Only a dataset without items counts as no data.  Items that are no records are dropped from the
report, so the report of a dataset that has nothing else is saved all the same, and is empty.

## Key results

- `Scrape.conclude_eq_ok`: what is saved in the end, and where it is read again
- `Scrape.run_noData`: when there are no data, and when there is nothing in the report
-/

namespace TweetHarvest

open Json (Value)

namespace Scrape

/-- The path of the document of a scrape. -/
def savedPath (shared : Path) (o : ScrapeOptions) (r : JobRequest) (time : Instant) : Path :=
  (Archive.directory shared).join (.ofText (savedName o r time))

/-- The cleaned name of the document is the name itself. -/
theorem place_savedName (shared : Path) {env : Environment} {o : ScrapeOptions} {r : JobRequest}
    {s : Settings} (h : prepare o env = .ok (r, s)) (time : Instant) :
    FileName.place (Archive.directory shared) (savedName o r time) = savedPath shared o r time := by
  rw [FileName.place, sanitize_savedName h, savedPath]

/-- Options that are not in order are no lack of data. -/
theorem prepare_ne_noData (o : ScrapeOptions) (env : Environment) (name : String) :
    prepare o env ≠ .error (.noData name) := by
  have hhandle : o.handle env ≠ .error (.noData name) := by
    intro h
    unfold ScrapeOptions.handle at h
    split at h
    · cases h
    · obtain ⟨cause, -, hcause⟩ := mapError_eq_error_iff.1 h
      cases hcause
  have hcredential : o.credential ≠ .error (.noData name) := by
    intro h
    unfold ScrapeOptions.credential at h
    split at h
    · cases h
    · split at h <;> cases h
  have hsettings : ∀ token, o.settings token ≠ .error (.noData name) := by
    intro token h
    unfold ScrapeOptions.settings at h
    split at h <;> cases h
  -- The fault is that of one of the three steps
  intro h
  rcases bind_eq_error_iff.1 h with h | ⟨username, -, h⟩
  · exact hhandle h
  rcases bind_eq_error_iff.1 h with h | ⟨token, -, h⟩
  · exact hcredential h
  rcases bind_eq_error_iff.1 h with h | ⟨settings, -, h⟩
  · exact hsettings _ h
  · cases h

section Conclude

variable (here : Location) (shared : Path) (time : Instant) (disk : Disk) {env : Environment}
  {o : ScrapeOptions} {r : JobRequest} {s : Settings}
  {found : Except ScrapeFault (String × List Value)}

/-- A scrape that succeeds has found something, and its document is read again where it has been
saved. -/
theorem conclude_eq_ok (hprepare : prepare o env = .ok (r, s)) {envelope : Envelope}
    (h : (conclude here shared time disk o r found).1 = .ok envelope) :
    ∃ dataset items, found = .ok (dataset, items) ∧
      envelope = savedEnvelope o r dataset items time (savedPath shared o r time) ∧
      (conclude here shared time disk o r found).2.tree.read here (savedPath shared o r time) =
        .ok (savedValue o r dataset items time).pretty.toUTF8 := by
  rcases found with fault | ⟨dataset, items⟩
  · cases h
  · refine ⟨dataset, items, rfl, ?_⟩
    simp only [conclude] at h ⊢
    cases hsaved : ((Archive.save (.ofDisk here) (savedValue o r dataset items time)
      (Archive.directory shared) (savedName o r time) (savedTitle o)).run disk).1 with
    | error fault =>
      rw [hsaved] at h
      cases h
    -- A save that succeeds tells the place, and the document is read from there
    | ok path =>
      rw [hsaved] at h
      have hpath := Archive.save_path _ _ _ _ _ hsaved
      rw [place_savedName shared hprepare] at hpath
      subst hpath
      exact ⟨(Except.ok.inj h).symm,
        Archive.save_read _ _ disk (FileSystem.keeps_ofDisk here) _ _ hsaved⟩

/-- Saving never ends with no data. -/
theorem conclude_eq_noData_iff (name : String) :
    (conclude here shared time disk o r found).1 = .error (.noData name) ↔
      found = .error (.noData name) := by
  rcases found with fault | ⟨dataset, items⟩
  · exact ⟨fun h => congrArg _ (Except.error.inj h), fun h => congrArg _ (Except.error.inj h)⟩
  · simp only [conclude]
    generalize ((Archive.save (.ofDisk here) (savedValue o r dataset items time)
      (Archive.directory shared) (savedName o r time) (savedTitle o)).run disk).1 = saved
    cases saved <;> simp [savedResult]

end Conclude

/-- When there are no data, and when there is nothing in a report.  A scrape finds no data if it has
fetched a dataset without items, and in no other case, and leaves the disk as it was.  A scrape that
succeeds has fetched a dataset with items, and its report is loaded again from its file: there is no
profile and no tweet in it if none of the items is recognizable, and in no other case. -/
theorem run_noData (here : Location) (say : Envelope → String) (env : Environment) (shared : Path)
    (o : ScrapeOptions) (reply : Nat → Http.Request → Http.Outcome) (time : Instant)
    (disk : Disk) :
    let done := (run (World.machine here) (fun e => World.printLine (say e)) env shared o).run
      (World.start reply time disk)
    (∀ fault, prepare o env = .error fault →
      done.1 = .error fault ∧ (∀ name, fault ≠ .noData name) ∧ done.2.disk = disk) ∧
    ∀ r s, prepare o env = .ok (r, s) → ∃ start checks fetch,
      World.exchangesOf reply done.2.requests = start ++ checks ++ fetch ∧
      Asks (Client.ofSettings s) (RunInput.ofRequest s r) start checks fetch ∧
      (∀ name, done.1 = .error (.noData name) ↔
        name = r.username ∧ ∃ e ∈ fetch, e.items = .ok []) ∧
      (∀ name, done.1 = .error (.noData name) → done.2.disk = disk) ∧
      (o.raw = false → ∀ envelope, done.1 = .ok envelope → ∃ e items report,
        fetch = [e] ∧ e.items = .ok items ∧ items ≠ [] ∧
        (Archive.loadReport (.ofTree here) (savedPath shared o r time)).run done.2.tree =
          (.ok report, done.2.tree) ∧
        (report.profile = none ∧ report.tweets = [] ↔ ∀ item ∈ items, ¬ Recognizable item)) := by
  intro done
  refine ⟨fun fault h => ?_, fun r s h => ?_⟩
  -- Nothing is asked and nothing is saved
  · have hdone : done = _ := run_unprepared here say shared reply time disk h
    rw [hdone]
    refine ⟨rfl, ?_, rfl⟩
    rintro name rfl
    exact prepare_ne_noData o env name h
  · obtain ⟨start, checks, fetch, found, hexchanges, hdone, w, hc⟩ :=
      run_collected here say shared reply time disk h
    have hresult : done.1 = (conclude here shared time disk o r found).1 := congrArg Prod.fst hdone
    have hdisk : done.2.disk = (conclude here shared time disk o r found).2 :=
      congrArg Prod.snd hdone
    refine ⟨start, checks, fetch, hexchanges, hc.asks, fun name => ?_, fun name hname => ?_,
      fun hraw envelope henvelope => ?_⟩
    · rw [hresult, conclude_eq_noData_iff, hc.eq_noData_iff]
    -- What has not been found is not saved either
    · rw [hresult, conclude_eq_noData_iff] at hname
      rw [hdisk, hname]
      rfl
    · rw [hresult] at henvelope
      obtain ⟨dataset, items, hfound, -, hread⟩ :=
        conclude_eq_ok here shared time disk h henvelope
      obtain ⟨e, hfetch, -, hitems, hne⟩ := hc.served dataset items hfound
      rw [← hdisk] at hread
      -- Without the raw option, the report is what has been saved
      simp only [savedValue, hraw, Bool.false_eq_true, if_false] at hread
      exact ⟨e, items, reportOn r items time, hfetch, hitems, hne, Archive.run_loadReport hread,
        Timeline.isBlank_ofItems_iff⟩

/-- A scrape that asks for five tweets of an account. -/
def sampleOptions : ScrapeOptions where
  username := some "alice"
  tweets := 5
  token := some "apify_api_test"
  actorKind := .search
  actor := none
  proxyGroups := []
  query := none
  language := none
  includeRetweets := none
  includeReplies := none
  maxWait := 0
  pollInterval := 0
  apiBaseUrl := "http://127.0.0.1"
  agentBaseUrl := "http://agent.example//"
  strict := false
  raw := false

/-- A service whose runs have succeeded at the first check, with this body for the dataset. -/
def serving (body : String) (earlier : Nat) (_ : Http.Request) : Http.Outcome :=
  match earlier with
  | 0 => .response 201 "\x7b\"data\":\x7b\"id\":\"r\",\"status\":\"READY\"\x7d\x7d".toUTF8
  | 1 => .response 200 ("\x7b\"data\":\x7b\"id\":\"r\",\"status\":\"SUCCEEDED\"," ++
      "\"defaultDatasetId\":\"d\"\x7d\x7d").toUTF8
  | _ => .response 200 body.toUTF8

/-- The scrape of an account with that service, in a world without files. -/
def sampleRun (body : String) : Except ScrapeFault Envelope × World :=
  (run (World.machine []) (fun e => World.printLine e.compact) ⟨[]⟩ (.ofText "/shared")
    sampleOptions).run (World.start (serving body) Archive.afternoon Archive.emptyDisk)

/-- An empty dataset ends the sample scrape without data. -/
private theorem message_nothing :
    (sampleRun "[]").1.map Envelope.message = .error (.noData "alice") := by
  decide +kernel

/-- A dataset without items is no data, and the disk is left as it was. -/
theorem run_noData_nothing :
    let done := sampleRun "[]"
    done.1 = .error (.noData "alice") ∧ done.2.disk = Archive.emptyDisk ∧
    ∃ e ∈ World.exchangesOf (serving "[]") done.2.requests, e.items = .ok [] := by
  intro done
  have hdone : done.1 = .error (.noData "alice") := map_eq_error_iff.1 message_nothing
  obtain ⟨hunprepared, hprepared⟩ :=
    run_noData [] Envelope.compact ⟨[]⟩ (.ofText "/shared") sampleOptions
      (serving "[]") Archive.afternoon Archive.emptyDisk
  cases hprepare : prepare sampleOptions ⟨[]⟩ with
  -- Options that are not in order do not end in a lack of data
  | error fault =>
    obtain ⟨hfault, hne, -⟩ := hunprepared fault hprepare
    exact absurd (Except.error.inj (hfault.symm.trans hdone)) (hne "alice")
  | ok prepared =>
    obtain ⟨r, s⟩ := prepared
    obtain ⟨start, checks, fetch, hexchanges, -, hnoData, hkept, -⟩ := hprepared r s hprepare
    obtain ⟨-, e, he, hitems⟩ := (hnoData "alice").1 hdone
    refine ⟨hdone, hkept "alice" hdone, e, ?_, hitems⟩
    exact hexchanges ▸ List.mem_append_right _ he

/-- The path of the report of that account. -/
def samplePath : Path := .ofText "/shared/reports/twitter_alice_20240801_140000.json"

/-- A body with an item that is no record, and no other items. -/
def unrelatedBody : String := "[\x7b\"unrelated\":true\x7d]"

/-- The report of a dataset without records. -/
def emptyReport : Report := ⟨⟨"2024-08-01T14:00:00Z", "alice", 5, 0⟩, none, []⟩

/-- The sample scrape of an unrelated item leaves an empty report. -/
private theorem read_unrelated : (sampleRun unrelatedBody).1.isOk = true ∧
    (sampleRun unrelatedBody).2.tree.read [] samplePath = .ok emptyReport.toValue.pretty.toUTF8 := by
  decide +kernel

/-- An item that is no record is all that a dataset holds, and the scrape does not fail for lack of
data: it saves a report with neither a profile nor a tweet. -/
theorem run_unrecognizable_saved :
    let item : Value := .object [("unrelated", .bool true)]
    let done := sampleRun unrelatedBody
    sampleOptions.raw = false ∧
    Client.interpret (.list .any) (.response 200 unrelatedBody.toUTF8) = .ok [item] ∧
    ¬ Recognizable item ∧ done.1.isOk = true ∧
    (Archive.loadReport (.ofTree []) samplePath).run done.2.tree = (.ok emptyReport, done.2.tree) ∧
    emptyReport.profile = none ∧ emptyReport.tweets = [] := by
  intro item done
  have hitems : Client.interpret (.list .any) (.response 200 unrelatedBody.toUTF8) = .ok [item] := by
    apply Client.interpret_compact <;> decide +kernel
  -- Records are recognized exactly if something can be made of them
  have hitem : ¬ Recognizable item := by
    rw [← @Record.isSome_ofValue?_iff _ ""]
    decide +kernel
  exact ⟨rfl, hitems, hitem, read_unrelated.1, Archive.run_loadReport read_unrelated.2, rfl, rfl⟩

end Scrape

end TweetHarvest
