import TweetHarvest.Proofs.Archive.Writing

/-!
# Saving in a directory

A document that is saved under a name goes through the hidden name beside it.  Whatever happens on
the way, nothing else is touched but directories that are made.

## Key results

- `Archive.writeJson_written`: what writing under a name does to a tree
- `Archive.save_written`: what saving does to a tree, the making of the directory included
-/

namespace TweetHarvest

namespace Archive

open FileTree (SameBut DirectoriesStay)
open Json (Value)
open TweetHarvest.Path (IsName)

/-! ## Names in a directory -/

/-- A document has come to stand under a name in a directory.  Directories at the locations `made`
may be new, and the hidden name is free. -/
structure Placed (made : Location → Prop) (here : Location) (dir : Path) (name : List UInt8)
    (content : ByteArray) (t t' : FileTree) : Prop where
  reached : t'.spot here dir name = .ok (dir.placeOf here name)
  not_directory : t.get? (dir.placeOf here name) ≠ some .directory
  written : t'.get? (dir.placeOf here name) = some (.file content)
  moved : t'.get? (dir.placeOf here (hidden name)) = none
  others : SameBut made
    (fun l => l = dir.placeOf here name ∨ l = dir.placeOf here (hidden name)) t t'

/-- What writing under a name in a directory does to a tree. -/
structure Written (made : Location → Prop) (here : Location) (dir : Path) (name : List UInt8)
    (content : ByteArray) {α : Type} (t t' : FileTree) (result : Except Fault α) : Prop where
  stay : DirectoriesStay t t'
  failed : ∀ fault, result = .error fault →
    SameBut made (· = dir.placeOf here (hidden name)) t t'
  placed : ∀ a, result = .ok a → Placed made here dir name content t t'

/-- What can happen while a document is written under a name in a directory. -/
theorem Course.written {here : Location} {dir : Path} {name : List UInt8} {content : ByteArray}
    {clears : Prop} {t t' : FileTree} {result : Except Fault Unit} {trees : List FileTree}
    (hname : IsName name)
    (h : Course here (dir.join ⟨name⟩) name content clears t result trees t') :
    Written (fun _ => False) here dir name content t t' result where
  stay := h.stay
  failed fault hfault := by
    rw [← hiddenPlace_join here dir hname]
    exact h.of_error hfault
  placed a ha := by
    have hplace := Path.place_join_name here dir hname
    obtain ⟨-, hfree, ⟨special, hlocate⟩, hthere, hgone, hothers⟩ := h.of_ok ha
    rw [hiddenPlace_join here dir hname] at hgone hothers
    rw [hplace] at hfree hlocate hthere hothers
    exact ⟨FileTree.spot_of_locate hname hlocate, hfree, hthere, hgone, hothers⟩

/-- Writing under a name in a directory. -/
theorem writeJson_written {σ : Type} {fs : FileSystem (StateM σ)} {here : Location}
    {tree : σ → FileTree} (value : Value) (document : String) (s : σ) (hfs : fs.Keeps here tree)
    (dir : Path) {name : List UInt8} (h : IsName name) :
    Written (fun _ => False) here dir name value.pretty.toUTF8 (tree s)
      (tree ((writeJson fs value (dir.join ⟨name⟩) document).run s).2)
      ((writeJson fs value (dir.join ⟨name⟩) document).run s).1 := by
  rw [run_writeJson_eq_writeWatched fs tree]
  exact (course_of_writeJson value _ document s hfs (Path.fileName?_join dir h)).written h

/-! ## Saving -/

section Results

variable {α β : Type} {made : Location → Prop} {here : Location} {dir : Path} {name : List UInt8}
  {content : ByteArray} {t t₁ t' : FileTree} {result : Except Fault α}

/-- What is done after directories have been made counts from before that. -/
private theorem Written.of_made (hmade : SameBut made (fun _ => False) t t₁)
    (h : Written (fun _ => False) here dir name content t₁ t' result) :
    Written made here dir name content t t' result where
  stay := hmade.directoriesStay.trans h.stay
  failed fault hfault :=
    (hmade.mono (fun _ => id) fun _ => False.elim).trans
      ((h.failed fault hfault).mono (fun _ => False.elim) fun _ => id)
  placed a ha :=
    have hplaced := h.placed a ha
    { reached := hplaced.reached
      not_directory := fun hthere => hplaced.not_directory (hmade.directoriesStay _ hthere)
      written := hplaced.written
      moved := hplaced.moved
      others := (hmade.mono (fun _ => id) fun _ => False.elim).trans
        (hplaced.others.mono (fun _ => False.elim) fun _ => id) }

/-- What has been written does not depend on how the result is told. -/
private theorem Written.map (f : α → β) (h : Written made here dir name content t t' result) :
    Written made here dir name content t t' (result.map f) where
  stay := h.stay
  failed fault hfault := h.failed fault (map_eq_error_iff.1 hfault)
  placed b hb := by
    obtain ⟨a, ha, -⟩ := map_eq_ok_iff.1 hb
    exact h.placed a ha

end Results

section Saving

variable {σ : Type} {fs : FileSystem (StateM σ)} {here : Location} {tree : σ → FileTree}
  (dir : Path) (value : Value) (name document : String) (s : σ)

/-- Saving makes the directory and writes into it. -/
theorem run_save :
    (save fs value dir name document).run s =
      match (fs.makeDirs dir).run s with
      | (.error cause, s₁) => (.error (.directory dir cause), s₁)
      | (.ok (), s₁) =>
        (((writeJson fs value (FileName.place dir name) document).run s₁).1.map
            fun _ => FileName.place dir name,
          ((writeJson fs value (FileName.place dir name) document).run s₁).2) := by
  have hensure : (ensureDirectory fs dir).run s =
      (((fs.makeDirs dir).run s).1.mapError (.directory dir), ((fs.makeDirs dir).run s).2) := rfl
  rw [save, StateT.run_bind, hensure]
  -- Nothing is written unless the directory has been made
  rcases (fs.makeDirs dir).run s with ⟨_ | ⟨⟩, s₁⟩
  · rfl
  · show StateT.run (writeJson fs value (FileName.place dir name) document >>= _) s₁ = _
    rw [StateT.run_bind]
    rfl

/-- A document that has been saved stands under the cleaned name. -/
theorem save_path {path : Path} (h : ((save fs value dir name document).run s).1 = .ok path) :
    path = FileName.place dir name := by
  rw [run_save] at h
  split at h
  · exact nomatch h
  · dsimp only at h
    obtain ⟨-, -, hpath⟩ := map_eq_ok_iff.1 h
    exact hpath.symm

/-- Saving under a name in a directory. -/
theorem save_written (hfs : fs.Keeps here tree) (h : IsName (Utf8.octets (FileName.sanitize name))) :
    Written (dir.Passes here) here dir (Utf8.octets (FileName.sanitize name))
      value.pretty.toUTF8 (tree s) (tree ((save fs value dir name document).run s).2)
      ((save fs value dir name document).run s).1 := by
  have hmade := hfs.makeDirs_sameBut dir s
  have hplace : FileName.place dir name = dir.join ⟨Utf8.octets (FileName.sanitize name)⟩ := rfl
  rw [run_save]
  -- Only a directory that has been made is written into
  generalize (fs.makeDirs dir).run s = made at hmade
  rcases made with ⟨_ | ⟨⟩, s₁⟩
  · exact ⟨hmade.directoriesStay, fun _ _ => hmade.mono (fun _ => id) fun _ => False.elim, by simp⟩
  · have hwritten := writeJson_written value document s₁ hfs dir h
    rw [← hplace] at hwritten
    dsimp only
    exact (hwritten.of_made hmade).map _

end Saving

end Archive

end TweetHarvest
