import TweetHarvest.Proofs.Archive.Saving
import TweetHarvest.Proofs.Report.Names
import TweetHarvest.Proofs.Report.RoundTrip

/-!
# The directory of saved documents is a map

The keys of the map are what the names of files tell: the kind of document, the handle and the
second of UTC.  A call that saves a document sets its key, and a call that fails sets nothing; neither
touches any other key, whatever the order of the calls and the troubles of the disk.

## Key results

- `Archive.Call.location_inj`: different keys have different places
- `Archive.Call.perform_file?`: a call sets its key, or nothing
- `Archive.performAll_file?`: after any calls a key has what was saved last under it
- `Archive.performAll_map`: the directory is a map
-/

namespace TweetHarvest

namespace FileTree

/-- The content of the file at a location. -/
def file? (t : FileTree) (l : Location) : Option ByteArray :=
  match t.get? l with
  | some (.file content) => some content
  | _ => none

/-- A file is found with its content where the tree has it. -/
theorem file?_eq_some_iff {t : FileTree} {l : Location} {content : ByteArray} :
    t.file? l = some content ↔ t.get? l = some (.file content) := by
  unfold file?
  split
  · next h => simp [h]
  · next h => simpa using h content

/-- New directories are no files. -/
theorem SameBut.file?_eq {made touched : Location → Prop} {t t' : FileTree}
    (h : SameBut made touched t t') {l : Location} (hl : ¬ touched l) : t'.file? l = t.file? l := by
  rcases h l hl with hsame | ⟨-, hnone, hdirectory⟩
  · rw [file?, file?, hsame]
  · rw [file?, file?, hnone, hdirectory]

end FileTree

namespace Archive

open FileTree (SameBut DirectoriesStay)
open TweetHarvest.Path (IsName)
open Username (isHandle)

/-! ## Calls and keys -/

/-- A call that saves a document. -/
inductive Call where
  | report (r : Report) (time : Instant)
  | dump (d : RawDump) (username : String) (time : Instant)

/-- What a document is saved under. -/
structure Key where
  raw : Bool
  username : String
  second : Instant.UtcSecond
deriving DecidableEq

namespace Call

/-- Whether the document is a raw dump. -/
def raw : Call → Bool
  | .report _ _ => false
  | .dump _ _ _ => true

/-- The account that the document is about. -/
def username : Call → String
  | .report r _ => r.metadata.username
  | .dump _ username _ => username

/-- The time of the document. -/
def time : Call → Instant
  | .report _ time => time
  | .dump _ _ time => time

/-- What the document is saved under. -/
def key (c : Call) : Key := ⟨c.raw, c.username, c.time.utcSecond⟩

/-- The octets that are saved. -/
def content : Call → ByteArray
  | .report r _ => r.toValue.pretty.toUTF8
  | .dump d _ _ => d.toValue.pretty.toUTF8

/-- The name of the file. -/
def name (c : Call) : String := documentName c.raw c.username c.time

/-- The name of the file as it is cleaned. -/
def cleanName (c : Call) : String := FileName.sanitize c.name

/-- Where the file stands, seen from the directory `here`. -/
def location (here : Location) (dir : Path) (c : Call) : Location :=
  dir.placeOf here (Utf8.octets c.name)

/-- Where the file is written first. -/
def hiddenLocation (here : Location) (dir : Path) (c : Call) : Location :=
  dir.placeOf here (hidden (Utf8.octets c.name))

/-- Saves the document in a directory. -/
def perform (here : Location) (dir : Path) : Call → StateM Disk (Except Fault Path)
  | .report r time => saveReport (.ofDisk here) r dir time
  | .dump d username time => saveDump (.ofDisk here) d username dir time

/-- The document as JSON. -/
def value : Call → Json.Value
  | .report r _ => r.toValue
  | .dump d _ _ => d.toValue

/-- What the document is called in faults. -/
def title : Call → String
  | .report _ _ => "report"
  | .dump _ _ _ => "raw dataset dump"

/-- Both kinds of documents are saved in the same way. -/
theorem perform_eq (here : Location) (dir : Path) (c : Call) :
    c.perform here dir = save (.ofDisk here) c.value dir c.name c.title := by
  cases c <;> rfl

/-- A call writes the indented text of its document. -/
theorem content_eq (c : Call) : c.content = c.value.pretty.toUTF8 := by
  cases c <;> rfl

/-- The characters of the cleaned name. -/
theorem toList_cleanName (c : Call) :
    c.cleanName.toList = FileName.sanitizeChars (nameChars c.raw c.username c.time) := by
  rw [cleanName, name, documentName_eq, FileName.sanitize, String.toList_ofList, String.toList_ofList]

/-- Whatever the username is, the cleaned name can be that of an entry. -/
theorem isName_cleanName (c : Call) : IsName (Utf8.octets c.cleanName) := by
  rw [Utf8.octets, toList_cleanName]
  exact isName_sanitize ..

/-- The names of handles are clean. -/
theorem cleanName_eq {c : Call} (h : isHandle c.username.toList = true) : c.cleanName = c.name :=
  sanitize_documentName h

variable {here : Location} {dir : Path}

/-- Different keys have different places. -/
theorem location_inj {c other : Call} :
    c.location here dir = other.location here dir ↔ c.key = other.key := by
  rw [location, location, Path.placeOf_inj, Utf8.octets_inj, name, name, documentName_inj, key, key,
    Key.mk.injEq]

/-- No place is one where a file is written first. -/
theorem location_ne_hiddenLocation (c other : Call) :
    c.location here dir ≠ other.hiddenLocation here dir := by
  rw [location, hiddenLocation, ne_eq, Path.placeOf_inj, hidden_octets, Utf8.octets_inj]
  exact documentName_ne_hiddenName c.raw c.username c.time _

section Perform

variable (here dir)

/-- The document of a call goes to its cleaned name, whatever the username is. -/
theorem perform_cleaned (c : Call) (disk : Disk) :
    Written (dir.Passes here) here dir (Utf8.octets c.cleanName) c.content disk.tree
      ((c.perform here dir).run disk).2.tree ((c.perform here dir).run disk).1 := by
  have hwritten := save_written dir c.value c.name c.title disk (FileSystem.keeps_ofDisk here)
    c.isName_cleanName
  rwa [← content_eq, ← perform_eq] at hwritten

/-- A call that succeeds returns the path of the cleaned name in the directory. -/
theorem perform_path_cleaned {c : Call} {disk : Disk} {path : Path}
    (hpath : ((c.perform here dir).run disk).1 = .ok path) :
    path = dir.join (.ofText c.cleanName) := by
  rw [perform_eq] at hpath
  exact save_path dir c.value c.name c.title disk hpath

variable {c : Call} (h : isHandle c.username.toList = true) (disk : Disk)

include h

/-- The document of a call goes to the place of its key. -/
theorem perform_written :
    Written (dir.Passes here) here dir (Utf8.octets c.name) c.content disk.tree
      ((c.perform here dir).run disk).2.tree ((c.perform here dir).run disk).1 := by
  rw [← cleanName_eq h]
  exact perform_cleaned here dir c disk

/-- A call that succeeds returns the path of the name in the directory. -/
theorem perform_path {path : Path} (hpath : ((c.perform here dir).run disk).1 = .ok path) :
    path = dir.join (.ofText c.name) := by
  rw [← cleanName_eq h]
  exact perform_path_cleaned here dir hpath

/-- A call sets its key if it succeeds, and nothing else. -/
theorem perform_file? (other : Call) :
    ((c.perform here dir).run disk).2.tree.file? (other.location here dir) =
      if other.key = c.key ∧ ((c.perform here dir).run disk).1.isOk = true then some c.content
      else disk.tree.file? (other.location here dir) := by
  have hwritten := perform_written here dir h disk
  have hhidden : other.location here dir ≠ dir.placeOf here (hidden (Utf8.octets c.name)) :=
    location_ne_hiddenLocation other c
  -- The hidden name is the only one that a failure touches
  cases hresult : ((c.perform here dir).run disk).1 with
  | error fault =>
    rw [if_neg (by rintro ⟨-, hok⟩; exact nomatch hok)]
    exact (hwritten.failed fault hresult).file?_eq hhidden
  | ok path =>
    have hplaced := hwritten.placed path hresult
    by_cases hkey : other.key = c.key
    · rw [if_pos ⟨hkey, rfl⟩, location_inj.2 hkey]
      exact FileTree.file?_eq_some_iff.2 hplaced.written
    · rw [if_neg (by rintro ⟨hsame, -⟩; exact hkey hsame)]
      refine hplaced.others.file?_eq ?_
      rintro (hl | hl)
      · exact hkey (location_inj.1 hl)
      · exact hhidden hl

end Perform

end Call

/-! ## Sequences of calls -/

/-- Calls with their results. -/
abbrev Log := List (Call × Except Fault Path)

/-- Saves documents one after the other. -/
def performAll (here : Location) (dir : Path) : List Call → StateM Disk Log
  | [] => return []
  | c :: calls => do
    let result ← c.perform here dir
    let log ← performAll here dir calls
    return (c, result) :: log

/-- The last call of a log that saved a document under a key. -/
def lastSaved (key : Key) : Log → Option Call
  | [] => none
  | (c, result) :: log =>
    (lastSaved key log).or (if key = c.key ∧ result.isOk = true then some c else none)

/-- The last call under a key has that key. -/
theorem key_of_lastSaved {key : Key} {log : Log} {last : Call}
    (h : lastSaved key log = some last) : last.key = key := by
  induction log with
  | nil => exact nomatch h
  | cons entry log ih =>
    obtain ⟨first, result⟩ := entry
    rw [lastSaved, Option.or_eq_some_iff] at h
    rcases h with h | ⟨-, h⟩
    · exact ih h
    · split at h
      · next hfirst =>
        cases h
        exact hfirst.1.symm
      · exact nomatch h

/-- A key under which a document was saved has a last one. -/
theorem exists_lastSaved {log : Log} {c : Call} {path : Path} (h : (c, .ok path) ∈ log) :
    ∃ last, lastSaved c.key log = some last := by
  induction log with
  | nil => exact nomatch h
  | cons entry log ih =>
    obtain ⟨first, result⟩ := entry
    rw [lastSaved]
    -- Either it is the first call, unless a later one has followed, or it is a later one
    rcases List.mem_cons.1 h with heq | hmem
    · cases heq
      rw [if_pos ⟨rfl, rfl⟩]
      cases lastSaved c.key log with
      | none => exact ⟨c, rfl⟩
      | some last => exact ⟨last, rfl⟩
    · obtain ⟨last, hlast⟩ := ih hmem
      exact ⟨last, by rw [hlast]; rfl⟩

section PerformAll

variable (here : Location) (dir : Path) (disk : Disk)

/-- Of several calls, the first one is performed on the disk, and the others on what it leaves. -/
theorem run_performAll_cons (c : Call) (calls : List Call) :
    (performAll here dir (c :: calls)).run disk =
      let first := (c.perform here dir).run disk
      let rest := (performAll here dir calls).run first.2
      ((c, first.1) :: rest.1, rest.2) := rfl

/-- The log has an entry for each call. -/
theorem performAll_calls (calls : List Call) :
    ((performAll here dir calls).run disk).1.map (·.1) = calls := by
  induction calls generalizing disk with
  | nil => rfl
  | cons c calls ih =>
    rw [run_performAll_cons]
    dsimp only
    rw [List.map_cons, ih]

variable {calls : List Call} (h : ∀ c ∈ calls, isHandle c.username.toList = true)

include h

/-- After any calls a key has what was saved last under it, or what it had before. -/
theorem performAll_file? (other : Call) :
    ((performAll here dir calls).run disk).2.tree.file? (other.location here dir) =
      ((lastSaved other.key ((performAll here dir calls).run disk).1).map Call.content).or
        (disk.tree.file? (other.location here dir)) := by
  induction calls generalizing disk with
  | nil => rfl
  | cons c calls ih =>
    have hfirst := Call.perform_file? here dir (h c (List.mem_cons_self ..)) disk other
    have hrest := ih ((c.perform here dir).run disk).2 fun d hd => h d (List.mem_cons_of_mem _ hd)
    rw [run_performAll_cons]
    dsimp only
    rw [hrest, hfirst, lastSaved]
    -- What the later calls have saved goes before what the first one has
    cases lastSaved other.key ((performAll here dir calls).run ((c.perform here dir).run disk).2).1 with
    | some last => rfl
    | none =>
      rw [Option.none_or, Option.map_none, Option.none_or]
      split <;> rfl

/-- Calls change nothing but the places of the keys that are set, and hidden ones. -/
theorem performAll_sameBut :
    SameBut (dir.Passes here)
      (fun l => ∃ c result, (c, result) ∈ ((performAll here dir calls).run disk).1 ∧
        (l = c.hiddenLocation here dir ∨ l = c.location here dir ∧ ∃ path, result = .ok path))
      disk.tree ((performAll here dir calls).run disk).2.tree := by
  induction calls generalizing disk with
  | nil => exact .refl
  | cons c calls ih =>
    have hfirst := Call.perform_written here dir (h c (List.mem_cons_self ..)) disk
    have hrest := ih ((c.perform here dir).run disk).2 fun d hd => h d (List.mem_cons_of_mem _ hd)
    rw [run_performAll_cons]
    dsimp only
    -- The first call touches places of its own, and the others touch theirs
    refine SameBut.trans ?_ (hrest.mono (fun _ => id) ?_)
    · cases hresult : ((c.perform here dir).run disk).1 with
      | error fault =>
        refine (hfirst.failed fault hresult).mono (fun _ => id) fun l hl => ?_
        exact ⟨c, _, List.mem_cons_self .., .inl hl⟩
      | ok path =>
        refine (hfirst.placed path hresult).others.mono (fun _ => id) fun l hl => ?_
        exact ⟨c, _, List.mem_cons_self .., hl.symm.imp id fun hl => ⟨hl, path, rfl⟩⟩
    · rintro l ⟨d, result, hmem, hl⟩
      exact ⟨d, result, List.mem_cons_of_mem _ hmem, hl⟩

/-- Calls leave all directories in place. -/
theorem performAll_stay : DirectoriesStay disk.tree ((performAll here dir calls).run disk).2.tree := by
  induction calls generalizing disk with
  | nil => exact .refl disk.tree
  | cons c calls ih =>
    exact (Call.perform_written here dir (h c (List.mem_cons_self ..)) disk).stay.trans
      (ih _ fun d hd => h d (List.mem_cons_of_mem _ hd))

/-- Where documents were saved their names can still be found. -/
theorem performAll_spot {c : Call} {path : Path}
    (hmem : (c, .ok path) ∈ ((performAll here dir calls).run disk).1) :
    path = dir.join (.ofText c.name) ∧
      ((performAll here dir calls).run disk).2.tree.spot here dir (Utf8.octets c.name) =
        .ok (c.location here dir) := by
  induction calls generalizing disk with
  | nil => exact nomatch hmem
  | cons first calls ih =>
    have hfirst := h first (List.mem_cons_self ..)
    have hrest : ∀ d ∈ calls, isHandle d.username.toList = true := fun d hd =>
      h d (List.mem_cons_of_mem _ hd)
    rw [run_performAll_cons] at hmem ⊢
    dsimp only at hmem ⊢
    rcases List.mem_cons.1 hmem with heq | hmem
    · obtain ⟨rfl, hresult⟩ := Prod.mk.inj heq
      have hplaced := (Call.perform_written here dir hfirst disk).placed path hresult.symm
      -- The later calls leave the directories in place, so the name is still found
      exact ⟨Call.perform_path here dir hfirst disk hresult.symm,
        FileTree.spot_mono (performAll_stay here dir _ hrest) hplaced.reached⟩
    · exact ih _ hrest hmem

end PerformAll

/-- The directory of saved documents is a map from keys to documents.

After any calls, every key has the octets of the last document saved under it, or what it had
before.  A path that was returned for a key leads to these octets, and for a report that report is
loaded from it.  A call that fails changes the file of no key, and no call changes the file of
another key.  Nothing else is changed but by directories made on the way and at the hidden places of
the documents. -/
theorem performAll_map (here : Location) (dir : Path) (disk : Disk) {calls : List Call}
    (h : ∀ c ∈ calls, isHandle c.username.toList = true) :
    let done := (performAll here dir calls).run disk
    done.1.map (·.1) = calls ∧
    (∀ other : Call, done.2.tree.file? (other.location here dir) =
      ((lastSaved other.key done.1).map Call.content).or (disk.tree.file? (other.location here dir))) ∧
    (∀ c path, (c, .ok path) ∈ done.1 → ∃ last, lastSaved c.key done.1 = some last ∧
      done.2.tree.read here path = .ok last.content ∧
      (c.key.raw = false → ∃ r time, last = .report r time ∧
        (loadReport (.ofTree here) path).run done.2.tree = (.ok r, done.2.tree))) ∧
    (∀ c ∈ calls, ∀ (before : Disk) (other : Call),
      let step := (c.perform here dir).run before
      (∃ fault, step.1 = .error fault) ∨ other.key ≠ c.key →
        step.2.tree.file? (other.location here dir) =
          before.tree.file? (other.location here dir)) ∧
    SameBut (dir.Passes here)
      (fun l => ∃ c result, (c, result) ∈ done.1 ∧
        (l = c.hiddenLocation here dir ∨ l = c.location here dir ∧ ∃ path, result = .ok path))
      disk.tree done.2.tree := by
  intro done
  refine ⟨performAll_calls here dir disk calls, performAll_file? here dir disk h,
    fun c path hmem => ?_, fun c hc before other => ?_, performAll_sameBut here dir disk h⟩
  -- What was saved last under the key stands at the place that the path leads to
  · obtain ⟨last, hlast⟩ := exists_lastSaved hmem
    obtain ⟨rfl, hspot⟩ := performAll_spot here dir disk h hmem
    have hkey : last.key = c.key := key_of_lastSaved hlast
    have hfile : done.2.tree.get? (c.location here dir) = some (.file last.content) := by
      apply FileTree.file?_eq_some_iff.1
      rw [performAll_file? here dir disk h c, hlast]
      rfl
    have hcall : c ∈ calls := by
      rw [← performAll_calls here dir disk calls]
      exact List.mem_map.2 ⟨_, hmem, rfl⟩
    have hname : IsName (Utf8.octets c.name) := isName_documentName (h c hcall)
    have hread := FileTree.read_join done.2.tree here dir hname hspot hfile
    refine ⟨last, hlast, hread, fun hraw => ?_⟩
    -- The key tells the kind of the document
    cases last with
    | report r time => exact ⟨r, time, rfl, run_loadReport hread⟩
    | dump d username time => exact nomatch hraw.symm.trans (congrArg Key.raw hkey).symm
  · intro step hstep
    show ((c.perform here dir).run before).2.tree.file? _ = _
    rw [Call.perform_file? here dir (h c hc)]
    apply if_neg
    rintro ⟨hsame, hok⟩
    rcases hstep with ⟨fault, hfault⟩ | hother
    · have hfault : ((c.perform here dir).run before).1 = .error fault := hfault
      rw [hfault] at hok
      exact nomatch hok
    · exact hother hsame

/-- A call that saves a report without records. -/
def Call.first : Call :=
  .report ⟨⟨"2024-08-01T13:30:00Z", "alice", 10, 0⟩, none, []⟩
    ⟨1722519000, 250, by decide, by decide⟩

/-- A disk without files that is full when it comes to the sixth operation. -/
def fullDisk : Disk :=
  ⟨.empty, [none, none, none, none, none, some ⟨.other 28 "No space left on device", none⟩]⟩

/-- The log of two calls on that disk, the second one of which fails. -/
private theorem log_fullDisk :
    ((performAll [] (.ofText "reports") [.first, .first]).run fullDisk).1 =
      [(.first, .ok (.ofText "reports/twitter_alice_20240801_133000.json")),
        (.first, .error (.write "report" (.ofText "reports/.twitter_alice_20240801_133000.json.tmp")
          (.other 28 "No space left on device")))] := by
  have hresults : ((performAll [] (.ofText "reports") [.first, .first]).run fullDisk).1.map (·.2) =
      [.ok (.ofText "reports/twitter_alice_20240801_133000.json"),
        .error (.write "report" (.ofText "reports/.twitter_alice_20240801_133000.json.tmp")
          (.other 28 "No space left on device"))] := by
    decide +kernel
  exact List.zip_of_prod (performAll_calls [] (.ofText "reports") fullDisk _) hresults

/-- What the first of two calls has saved stays if the second one fails. -/
theorem performAll_map_first :
    let done := (performAll [] (.ofText "reports") [.first, .first]).run fullDisk
    (∀ c ∈ [Call.first, .first], isHandle c.username.toList = true) ∧
    done.1.map (fun entry => entry.2.isOk) = [true, false] ∧
    done.2.tree.read [] (.ofText "reports/twitter_alice_20240801_133000.json") =
      .ok Call.first.content := by
  intro done
  have hhandle : ∀ c ∈ [Call.first, .first], isHandle c.username.toList = true := by
    intro c hc
    simp only [List.mem_cons, List.not_mem_nil, or_false, or_self] at hc
    rw [hc]
    decide
  have hlog : done.1 = _ := log_fullDisk
  -- The first call has succeeded, so its key has what was saved last under it
  obtain ⟨-, -, hsaved, -⟩ := performAll_map [] (.ofText "reports") fullDisk hhandle
  obtain ⟨last, hlast, hread, -⟩ := hsaved .first _ (log_fullDisk ▸ List.mem_cons_self ..)
  have hlast : lastSaved Call.first.key done.1 = some last := hlast
  rw [hlog] at hlast ⊢
  obtain rfl : Call.first = last := by
    simpa [lastSaved, Except.isOk, Except.toBool] using hlast
  exact ⟨hhandle, rfl, hread⟩

end Archive

end TweetHarvest
