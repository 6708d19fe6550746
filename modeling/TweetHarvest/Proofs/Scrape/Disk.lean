import TweetHarvest.Proofs.Archive.Saving
import TweetHarvest.Proofs.Report.Names
import TweetHarvest.Proofs.Scrape.Requests

/-!
# What a scrape leaves on the disk

A scrape that fails before it has anything to save leaves the disk alone, one that fails in saving
leaves no more than the directories and the hidden file on the way, and one that succeeds leaves its
document and nothing else.

## Key results

- `Scrape.handle_of_prepare`: only handles are scraped
- `Scrape.save_placed`: what saving does to the files of a disk
- `Scrape.run_disk`: what it leaves on the disk
-/

namespace TweetHarvest

open Json (Value)

namespace Scrape

/-- What is read from a text is a handle. -/
theorem isHandle_of_read {text username : String} (h : Username.read text = .ok username) :
    Username.isHandle username.toList = true := by
  obtain ⟨-, -, hhandle⟩ := Username.read_eq_ok_iff.1 h
  exact Username.isHandle_iff.2 hhandle

/-- Only handles are scraped. -/
theorem handle_of_prepare {o : ScrapeOptions} {env : Environment} {r : JobRequest} {s : Settings}
    (h : prepare o env = .ok (r, s)) : Username.isHandle r.username.toList = true := by
  obtain ⟨username, husername, h⟩ := bind_eq_ok_iff.1 h
  obtain ⟨token, -, h⟩ := bind_eq_ok_iff.1 h
  obtain ⟨settings, -, h⟩ := bind_eq_ok_iff.1 h
  cases h
  unfold ScrapeOptions.handle at husername
  split at husername
  · exact nomatch husername
  · exact isHandle_of_read (mapError_eq_ok_iff.1 husername)

/-- The service has served a dataset with something in it. -/
def Served (env : Environment) (o : ScrapeOptions) (exchanges : List Exchange) : Prop :=
  ∃ r s e dataset items, prepare o env = .ok (r, s) ∧ e ∈ exchanges ∧
    e.request = (Client.ofSettings s).itemsRequest dataset ∧ e.items = .ok items ∧ items ≠ []

/-- The name of a document tells the kind, the handle and the time. -/
theorem savedName_eq (o : ScrapeOptions) (r : JobRequest) (time : Instant) :
    savedName o r time = Archive.documentName o.raw r.username time := rfl

section Names

variable {env : Environment} {o : ScrapeOptions} {r : JobRequest} {s : Settings}
  (h : prepare o env = .ok (r, s)) (time : Instant)

include h

/-- Cleaning leaves the name of the document of a scrape as it is. -/
theorem sanitize_savedName : FileName.sanitize (savedName o r time) = savedName o r time :=
  Archive.sanitize_documentName (handle_of_prepare h)

/-- The document of a scrape has a name that an entry can have. -/
theorem isName_savedName : Path.IsName (Utf8.octets (savedName o r time)) :=
  Archive.isName_documentName (handle_of_prepare h)

end Names

/-- Saving what has been found. -/
theorem save_placed (here : Location) (shared : Path) {env : Environment} {o : ScrapeOptions}
    {r : JobRequest} {s : Settings} (h : prepare o env = .ok (r, s)) (dataset : String)
    (items : List Value) (time : Instant) (disk : Disk) :
    let saved := (Archive.save (.ofDisk here) (savedValue o r dataset items time)
      (Archive.directory shared) (savedName o r time) (savedTitle o)).run disk
    Archive.Written ((Archive.directory shared).Passes here) here (Archive.directory shared)
      (Utf8.octets (savedName o r time)) (savedValue o r dataset items time).pretty.toUTF8 disk.tree
      saved.2.tree saved.1 := by
  -- Saving cleans the name, which has no character to be cleaned
  have hclean := sanitize_savedName h time
  have hwritten := Archive.save_written (Archive.directory shared)
    (savedValue o r dataset items time) (savedName o r time) (savedTitle o) disk
    (FileSystem.keeps_ofDisk here) (by rw [hclean]; exact isName_savedName h time)
  rwa [hclean] at hwritten

/-- What a scrape leaves on a disk, whatever trouble the disk is in.  If it fails with nothing served
that could be saved, it leaves the files as they were; if it fails in saving, it leaves no more than
directories on the way to those of the saved documents and the hidden file beside its target; if it
succeeds, it leaves its document in the directory of the saved documents, and no hidden file. -/
theorem run_disk (here : Location) (say : Envelope → String) (env : Environment) (shared : Path)
    (o : ScrapeOptions) (reply : Nat → Http.Request → Http.Outcome) (time : Instant)
    (disk : Disk) :
    let done := (run (World.machine here) (fun e => World.printLine (say e)) env shared o).run
      (World.start reply time disk)
    let dir := Archive.directory shared
    (∀ fault, done.1 = .error fault →
      (¬ Served env o (World.exchangesOf reply done.2.requests) → done.2.disk = disk) ∧
      ∀ r s, prepare o env = .ok (r, s) → FileTree.SameBut (dir.Passes here)
        (· = dir.placeOf here (Archive.hidden (Utf8.octets (savedName o r time)))) disk.tree
        done.2.tree) ∧
    (∀ envelope, done.1 = .ok envelope → ∃ r s content, prepare o env = .ok (r, s) ∧
      (∃ rest, savedName o r time = "twitter_" ++ r.username ++ "_" ++ rest) ∧
      done.2.tree.find here dir = .ok (dir.place here, .directory) ∧
      Archive.Placed (dir.Passes here) here dir (Utf8.octets (savedName o r time)) content disk.tree
        done.2.tree) := by
  intro done dir
  cases hprepare : prepare o env with
  | error fault =>
    have hdone : done = _ := run_unprepared here say shared reply time disk hprepare
    rw [hdone]
    exact ⟨fun _ _ => ⟨fun _ => rfl, fun _ _ h => nomatch h⟩, fun _ h => nomatch h⟩
  | ok prepared =>
    obtain ⟨r, s⟩ := prepared
    obtain ⟨start, checks, fetch, found, hexchanges, hdone, w, hc⟩ :=
      run_collected here say shared reply time disk hprepare
    have hresult : done.1 = (conclude here shared time disk o r found).1 := congrArg Prod.fst hdone
    have hdisk : done.2.disk = (conclude here shared time disk o r found).2 :=
      congrArg Prod.snd hdone
    rcases found with fault | ⟨dataset, items⟩
    · refine ⟨fun _ _ => ⟨fun _ => hdisk, fun _ _ _ => ?_⟩, fun _ h => nomatch hresult.symm.trans h⟩
      rw [World.tree, hdisk]
      exact .refl
    -- Something has been found, so it has been served, and is saved now
    · have hserved : Served env o (World.exchangesOf reply done.2.requests) := by
        obtain ⟨e, rfl, hrequest, hitems, hne⟩ := hc.served dataset items rfl
        refine ⟨r, s, e, dataset, items, hprepare, ?_, hrequest, hitems, hne⟩
        rw [hexchanges]
        simp
      have hwritten := save_placed here shared hprepare dataset items time disk
      rw [World.tree, hresult, hdisk]
      simp only [conclude]
      generalize (Archive.save (.ofDisk here) (savedValue o r dataset items time)
        (Archive.directory shared) (savedName o r time) (savedTitle o)).run disk = saved at hwritten
      obtain ⟨result, left⟩ := saved
      cases result with
      | error cause =>
        refine ⟨fun _ _ => ⟨fun hnot => absurd hserved hnot, fun r' s' h => ?_⟩,
          fun _ h => nomatch h⟩
        cases h
        exact hwritten.failed cause rfl
      | ok path =>
        -- The directory of the document is there, since the name in it has been found
        have hplaced := hwritten.placed path rfl
        have hreach := (FileTree.spot_eq_ok_iff.1 hplaced.reached).2.1
        refine ⟨?_, fun _ _ => ⟨r, s, _, rfl,
          ⟨String.ofList (time.stamp ++ Archive.suffix o.raw), ?_⟩, FileTree.find_of_reach ?_ hreach,
          hplaced⟩⟩
        · exact fun _ h => nomatch h
        · apply String.toList_inj.1
          simp [savedName_eq, Archive.documentName_eq, Archive.nameChars, Archive.fileStem_eq,
            Archive.prefixChars]
        · exact Path.octets_join_ne shared (by decide)

end Scrape

end TweetHarvest
