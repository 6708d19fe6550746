import TweetHarvest.Proofs.Archive.Rereading

/-!
# Writing as a whole or not at all

A document is written to a hidden file beside its path and moved into place, whatever the path looks
like.  At no time does the path stand for anything but its old content or the whole document, and
what is left in the end is the document, or everything as it was but for the hidden file.

## Key results

- `Archive.writeJson_ok_iff`: where a document can be written, if nothing goes wrong
- `Archive.writeJson_atomic`: what the path stands for at any time, and what is left in the end
-/

namespace TweetHarvest

namespace Archive

open Json (Value)
open TweetHarvest.Path (IsName)

section Disk

variable (here : Location) (value : Value) (path : Path) (document : String)

/-- The removal of the hidden file can be relied on if no trouble comes with the third operation. -/
theorem clears_ofDisk {disk : Disk} (hcalm : disk.IsCalmAfter 2) (hiddenPath target : Path)
    (content : ByteArray) :
    Clears (.ofDisk here) Disk.tree disk here hiddenPath target content := by
  intro t hremove
  let fs := FileSystem.ofDisk here
  let d := ((fs.rename hiddenPath target).run ((fs.write hiddenPath content).run disk).2).2
  have htroubles : d.troubles = disk.troubles.tail.tail := rfl
  -- The two operations before have taken the first two troubles
  have hd : d.IsCalmAfter 0 := by
    intro trouble
    rw [htroubles]
    simpa using hcalm trouble
  show ((Disk.attempt (FileSystem.change (·.removeFile here hiddenPath)) Disk.refuse).run d).1 = _
  rw [Disk.run_attempt _ _ hd, FileSystem.run_change, hremove]

/-- Writing on a disk without troubles. -/
theorem run_writeJson_calm {last : List UInt8} (hlast : path.fileName? = some last) (t : FileTree) :
    (writeJson (.ofDisk here) value path document).run ⟨t, []⟩ =
      let hiddenPath := path.withFileName (hidden last)
      match t.write here hiddenPath value.pretty.toUTF8 with
      | .error cause => (.error (.write document hiddenPath cause), ⟨t, []⟩)
      | .ok t₁ =>
        match t₁.rename here hiddenPath path with
        | .ok t₂ => (.ok (), ⟨t₂, []⟩)
        | .error cause =>
          (.error (.move document path cause), ⟨t₁.erase (hiddenPath.place here), []⟩) := by
  have hwrite : ∀ p content, ((FileSystem.ofDisk here).write p content).run ⟨t, []⟩ = _ :=
    fun p content => Disk.run_attempt_change (·.write here p content) _ t
  have hrename : ∀ p q t, ((FileSystem.ofDisk here).rename p q).run ⟨t, []⟩ = _ :=
    fun p q t => Disk.run_attempt_change (·.rename here p q) _ t
  have hremove : ∀ p t, ((FileSystem.ofDisk here).removeFile p).run ⟨t, []⟩ = _ :=
    fun p t => Disk.run_attempt_change (·.removeFile here p) _ t
  -- Without troubles each operation does to the tree what it is meant to do
  rw [run_writeJson value document _ hlast, hwrite]
  dsimp only
  cases hwritten : t.write here (path.withFileName (hidden last)) value.pretty.toUTF8 with
  | error cause => rfl
  | ok t₁ =>
    dsimp only
    rw [hrename]
    cases t₁.rename here (path.withFileName (hidden last)) path with
    | ok t₂ => rfl
    | error cause =>
      dsimp only
      -- What has been written can be removed again
      rw [hremove, FileTree.removeFile_of_write hwritten]

/-- Nothing about a tree keeps a document from being written under a path: it is a name in a directory
that is there, neither it nor the hidden one is too long, and neither of the two is that of a
directory. -/
def CanWrite (here : Location) (path : Path) (t : FileTree) : Prop :=
  ∃ dir name, IsName name ∧ path = dir.join ⟨name⟩ ∧
    t.reach here dir = .ok (dir.place here) ∧
    name.length ≤ FileTree.maxNameOctets ∧ (hidden name).length ≤ FileTree.maxNameOctets ∧
    t.get? (dir.placeOf here (hidden name)) ≠ some .directory ∧
    t.get? (dir.placeOf here name) ≠ some .directory

/-- On a disk without troubles a document is written exactly where it can be written. -/
theorem writeJson_ok_iff (t : FileTree) :
    ((writeJson (.ofDisk here) value path document).run ⟨t, []⟩).1 = .ok () ↔
      CanWrite here path t := by
  constructor
  · intro hok
    -- What has arrived tells the name, and the two operations tell what they have found
    obtain ⟨last, -, harrived⟩ :=
      arrived_of_writeJson value path document _ (FileSystem.keeps_ofDisk here) hok
    obtain ⟨special, hlocate⟩ := harrived.located
    obtain ⟨dir, name, hname, rfl⟩ := FileTree.eq_join_of_locate hlocate
    have hhidden := isName_hidden hname
    have hlast := Path.fileName?_join dir hname
    obtain ⟨dir', hpath, hspot⟩ := FileTree.spot_withFileName dir hname (hidden name)
    rw [run_writeJson_calm here value _ document hlast, hpath] at hok
    dsimp only at hok
    split at hok
    · exact nomatch hok
    · next t₁ hwrite =>
      split at hok
      · next t₂ hrename =>
        obtain ⟨l, hl, hfree, rfl⟩ := FileTree.write_eq_ok hhidden hwrite
        obtain ⟨-, new, -, -, hnew, -, hnewFree, -⟩ := FileTree.rename_eq_ok hhidden hname hrename
        rw [hspot] at hl
        obtain ⟨rfl, hreach, hsize⟩ := FileTree.spot_eq_ok_iff.1 hl
        obtain ⟨rfl, -, hshort⟩ := FileTree.spot_eq_ok_iff.1 hnew
        rw [FileTree.get?_put_of_ne _ (placeOf_ne_placeOf_hidden here dir name)] at hnewFree
        exact ⟨dir, name, hname, rfl, hreach, hshort, hsize, hfree, hnewFree⟩
      · exact nomatch hok
  · rintro ⟨dir, name, hname, rfl, hreach, hshort, hsize, hfree, hnewFree⟩
    have hhidden := isName_hidden hname
    have hlast := Path.fileName?_join dir hname
    obtain ⟨dir', hpath, hspot⟩ := FileTree.spot_withFileName dir hname (hidden name)
    have hdiffer := placeOf_ne_placeOf_hidden here dir name
    have hold := FileTree.spot_eq_ok_iff.2 ⟨rfl, hreach, hsize⟩
    have hnew := FileTree.spot_eq_ok_iff.2 ⟨rfl, hreach, hshort⟩
    have hnonempty := dir.placeOf_ne_nil here (hidden name)
    have hstay := FileTree.directoriesStay_put hnonempty hfree (.file value.pretty.toUTF8)
    -- Both names are found in the directory, before and after the write
    have hwrite := FileTree.write_of_spot hhidden ((hspot t here).trans hold) hfree
      value.pretty.toUTF8
    have hrename := FileTree.rename_of_spot hhidden hname
      ((hspot _ here).trans (FileTree.spot_mono hstay hold)) (FileTree.spot_mono hstay hnew)
      (t.get?_put_self hnonempty _) (by rwa [t.get?_put_of_ne hdiffer])
    rw [run_writeJson_calm here value _ document hlast, hpath]
    simp only [hwrite, hrename]

end Disk

/-- A document is written as a whole or not at all.

A success leaves the document under the path and nothing in the hidden file, and a failure leaves
all but the hidden file as it was; if it is the move that fails and the removal can be relied on,
the hidden file is gone.  All the while the path stands for what it has stood for or for the whole
document.  On a disk without troubles a document is written exactly where it can be. -/
theorem writeJson_atomic (here : Location) (value : Value) (path : Path) (document : String)
    (disk : Disk) :
    let content := value.pretty.toUTF8
    let place := path.place here
    let written := writeWatched (.ofDisk here) Disk.tree value path document disk
    let t := disk.tree
    let t' := written.2.state.tree
    (writeJson (.ofDisk here) value path document).run disk = (written.1, written.2.state) ∧
    (written.1 = .ok () → ∃ name, path.fileName? = some name ∧
      t'.read here path = .ok content ∧
      t'.get? place = some (.file content) ∧
      t'.get? (hiddenPlace here path name) = none ∧
      ∀ l, l ≠ place → l ≠ hiddenPlace here path name → t'.get? l = t.get? l) ∧
    (∀ fault, written.1 = .error fault →
      t'.get? place = t.get? place ∧
      (∀ l, (∀ name, path.fileName? = some name → l ≠ hiddenPlace here path name) →
        t'.get? l = t.get? l) ∧
      ∀ cause, fault = .move document path cause → disk.IsCalmAfter 2 →
        ∃ name, path.fileName? = some name ∧ t'.get? (hiddenPlace here path name) = none) ∧
    (∀ seen ∈ written.2.trees,
      seen.get? place = t.get? place ∨ seen.get? place = some (.file content)) ∧
    (disk.troubles = [] → (written.1 = .ok () ↔ CanWrite here path t)) := by
  intro content place written t t'
  have hrun := run_writeJson_eq_writeWatched (.ofDisk here) Disk.tree value path document disk
  have hcan : disk.troubles = [] → (written.1 = .ok () ↔ CanWrite here path t) := by
    intro hcalm
    have hdisk : disk = ⟨t, []⟩ := by rw [← hcalm]
    have hiff := writeJson_ok_iff here value path document t
    rwa [← hdisk, hrun] at hiff
  cases hlast : path.fileName? with
  | none =>
    -- Without a name there is no operation, and nothing changes
    have hwritten : written = (.error (.unnamed path), ⟨disk, []⟩) :=
      writeWatched_unnamed _ _ value path document disk hlast
    have hsame : t' = t := congrArg (fun w => w.2.state.tree) hwritten
    refine ⟨hrun, fun hok => ?_, fun fault hfault => ?_, fun seen hseen => ?_, hcan⟩
    · rw [hwritten] at hok
      exact nomatch hok
    · rw [hwritten] at hfault
      obtain rfl := Except.error.inj hfault
      exact ⟨by rw [hsame], fun l _ => by rw [hsame], nofun⟩
    · rw [hwritten] at hseen
      exact nomatch hseen
  | some name =>
    have hfs := FileSystem.keeps_ofDisk here
    -- With a name everything follows from the course that the writing can take
    have hcourse := course_of_writeJson value path document disk hfs hlast
    have hne : place ≠ hiddenPlace here path name := place_ne_hiddenPlace hlast
    refine ⟨hrun, fun hok => ?_, fun fault hfault => ?_, fun seen hseen => ?_, hcan⟩
    · have hread := writeJson_read value document disk hfs (congrArg Prod.fst hrun |>.trans hok)
      rw [hrun] at hread
      have harrived := hcourse.of_ok hok
      refine ⟨name, rfl, hread, harrived.there, harrived.gone, fun l hplace hhidden => ?_⟩
      exact harrived.others.get?_eq (not_or.2 ⟨hplace, hhidden⟩)
    · have hleft := hcourse.of_error hfault
      refine ⟨hleft.get?_eq hne, fun l hl => hleft.get?_eq (hl name rfl), ?_⟩
      rintro cause rfl hcalm
      exact ⟨name, rfl, hcourse.of_move hfault (clears_ofDisk here hcalm _ _ _)⟩
    · exact hcourse.get?_of_mem hlast hseen

end Archive

end TweetHarvest
