import TweetHarvest.Proofs.Files.Locate

/-!
# What operations change in a tree of files

An operation on files changes a tree at the locations that it is about.

## Key results

- `FileTree.SameBut`: what an operation leaves as it was
- `FileTree.write_eq_put`, `FileTree.rename_eq_move`: what operations do at the places that their
  paths name
- `FileTree.write_join`, `FileTree.rename_join`, `FileTree.removeFile_join`: the operations on names
  in a directory
-/

namespace TweetHarvest

namespace FileTree

open TweetHarvest.Path (IsName)

/-- The trees differ only at the locations `touched` and by new directories at the locations
`made`. -/
def SameBut (made touched : Location → Prop) (t t' : FileTree) : Prop :=
  ∀ l, ¬ touched l →
    t'.get? l = t.get? l ∨ (made l ∧ t.get? l = none ∧ t'.get? l = some .directory)

section SameBut

variable {made touched : Location → Prop} {t t₁ t₂ t₃ : FileTree}

/-- A tree is the same as itself. -/
theorem SameBut.refl : SameBut made touched t t := fun _ _ => .inl rfl

/-- What two changes in a row leave alone is as it was. -/
theorem SameBut.trans (h : SameBut made touched t₁ t₂) (h' : SameBut made touched t₂ t₃) :
    SameBut made touched t₁ t₃ := by
  intro l hl
  -- A directory that is new in the second step has not been there before the first
  rcases h' l hl with h' | ⟨hmade, hnone, hdirectory⟩
  · rw [h']
    exact h l hl
  · rcases h l hl with h | ⟨-, -, hthere⟩
    · exact .inr ⟨hmade, by rw [← h, hnone], hdirectory⟩
    · rw [hnone] at hthere
      exact nomatch hthere

/-- More locations may be allowed to change. -/
theorem SameBut.mono {made' touched' : Location → Prop} (h : SameBut made touched t₁ t₂)
    (hmade : ∀ l, made l → made' l) (htouched : ∀ l, touched l → touched' l) :
    SameBut made' touched' t₁ t₂ := fun l hl =>
  (h l (mt (htouched l) hl)).imp id fun ⟨hl, hnone, hdirectory⟩ => ⟨hmade l hl, hnone, hdirectory⟩

/-- Where no directories are made, all is the same but at the locations that are touched. -/
theorem SameBut.get?_eq (h : SameBut (fun _ => False) touched t₁ t₂) {l : Location}
    (hl : ¬ touched l) : t₂.get? l = t₁.get? l :=
  (h l hl).resolve_right fun ⟨hmade, _⟩ => hmade

/-- New directories alone leave all directories in place. -/
theorem SameBut.directoriesStay (h : SameBut made (fun _ => False) t₁ t₂) :
    DirectoriesStay t₁ t₂ := by
  intro l hl
  rcases h l id with h | ⟨-, -, hdirectory⟩
  · rw [h, hl]
  · exact hdirectory

end SameBut

/-- The entry at a location below the root after a change there. -/
theorem get?_put (t : FileTree) {l : Location} (hl : l ≠ []) (e : Entry) (m : Location) :
    (t.put l e).get? m = if m = l then some e else t.get? m := by
  split
  · next h => subst h; exact t.get?_put_self hl e
  · next h => exact t.get?_put_of_ne h e

/-- The entry at a location below the root after a removal there. -/
theorem get?_erase (t : FileTree) {l : Location} (hl : l ≠ []) (m : Location) :
    (t.erase l).get? m = if m = l then none else t.get? m := by
  split
  · next h => subst h; exact t.get?_erase_self hl
  · next h => exact t.get?_erase_of_ne h

/-- Putting an entry at a location touches no other location. -/
theorem sameBut_put (made : Location → Prop) (t : FileTree) (l : Location) (e : Entry) :
    SameBut made (· = l) t (t.put l e) := fun _ hm => .inl (t.get?_put_of_ne hm e)

/-- Erasing a location touches no other location. -/
theorem sameBut_erase (made : Location → Prop) (t : FileTree) (l : Location) :
    SameBut made (· = l) t (t.erase l) := fun _ hm => .inl (t.get?_erase_of_ne hm)

/-- A new entry leaves all directories, unless it takes the place of one. -/
theorem directoriesStay_put {t : FileTree} {l : Location} (hl : l ≠ [])
    (h : t.get? l ≠ some .directory) (e : Entry) : DirectoriesStay t (t.put l e) := by
  intro m hm
  rw [t.get?_put hl, if_neg (by rintro rfl; exact h hm), hm]

/-- A removal leaves all directories, unless it is the removal of one. -/
theorem directoriesStay_erase {t : FileTree} {l : Location} (hl : l ≠ [])
    (h : t.get? l ≠ some .directory) : DirectoriesStay t (t.erase l) := by
  intro m hm
  rw [t.get?_erase hl, if_neg (by rintro rfl; exact h hm), hm]

/-- Making a directory puts it at the place that its path names, where nothing has been. -/
theorem makeDir_eq_ok {t t' : FileTree} {here : Location} {p : Path}
    (h : t.makeDir here p = .ok t') :
    t' = t.put (p.place here) .directory ∧ t.get? (p.place here) = none ∧ p.place here ≠ [] := by
  obtain ⟨⟨l, slashes⟩, hlocate, h⟩ := bind_eq_ok_iff.1 h
  obtain ⟨hplace, hne⟩ := locate_eq_ok hlocate
  dsimp only at h
  split at h
  · exact nomatch h
  · next hnone =>
    cases h
    rw [← hplace]
    exact ⟨rfl, hnone, hne⟩

/-- A directory that has been made can be reached. -/
theorem reach_of_makeDir {t t' : FileTree} {here : Location} {p : Path}
    (h : t.makeDir here p = .ok t') : t'.reach here p = .ok (p.place here) := by
  obtain ⟨rfl, hnone, hne⟩ := makeDir_eq_ok h
  obtain ⟨⟨l, slashes⟩, hlocate, -⟩ := bind_eq_ok_iff.1 h
  obtain ⟨rfl, -⟩ := locate_eq_ok hlocate
  have hstay : DirectoriesStay t (t.put (p.place here) .directory) :=
    directoriesStay_put hne (by simp [hnone]) _
  exact reach_of_locate hlocate hstay (t.get?_put_self hne _)

section Places

variable {t t' : FileTree} {here : Location} {p q : Path}

/-- A file is written at the place that its path names, where no directory is. -/
theorem write_eq_put {content : ByteArray} (h : t.write here p content = .ok t') :
    t' = t.put (p.place here) (.file content) ∧ t.get? (p.place here) ≠ some .directory ∧
      p.place here ≠ [] ∧ ∃ special, t.locate here p special = .ok (p.place here, false) := by
  obtain ⟨⟨l, slashes⟩, hlocate, h⟩ := bind_eq_ok_iff.1 h
  obtain ⟨rfl, hne⟩ := locate_eq_ok hlocate
  -- A path with slashes at its end is not that of a file
  cases slashes with
  | true => exact nomatch h
  | false =>
    simp only [Bool.false_eq_true, if_false] at h
    split at h
    · exact nomatch h
    · next hdirectory =>
      cases h
      exact ⟨rfl, hdirectory, hne, _, hlocate⟩

/-- A file is moved from one place to another, where no directory is. -/
theorem rename_eq_move (h : t.rename here p q = .ok t') :
    ∃ content, t.get? (p.place here) = some (.file content) ∧
      t.get? (q.place here) ≠ some .directory ∧
      t' = (t.erase (p.place here)).put (q.place here) (.file content) ∧
      ∃ special, t.locate here q special = .ok (q.place here, false) := by
  obtain ⟨⟨old, _⟩, hold, h⟩ := bind_eq_ok_iff.1 h
  obtain ⟨⟨new, slashes⟩, hnew, h⟩ := bind_eq_ok_iff.1 h
  obtain ⟨rfl, -⟩ := locate_eq_ok hold
  obtain ⟨rfl, hne⟩ := locate_eq_ok hnew
  -- Only a file is moved, not to a path with slashes at its end, and not over a directory
  dsimp only at h
  split at h
  · exact nomatch h
  · exact nomatch h
  · next content hfile =>
    cases slashes with
    | true => exact nomatch h
    | false =>
      simp only [Bool.false_eq_true, if_false] at h
      split at h
      · exact nomatch h
      · next hdirectory =>
        cases h
        exact ⟨content, hfile, hdirectory, rfl, _, hnew⟩

end Places

/-! ## Names in a directory -/

section Names

variable (t : FileTree) (here : Location) (dir : Path) {name : List UInt8}

/-- Writing under a name in a directory: the name is found and put there, unless it is that of a
directory. -/
theorem write_join (h : IsName name) (content : ByteArray) :
    t.write here (dir.join ⟨name⟩) content = (do
      let l ← t.spot here dir name
      match t.get? l with
      | some .directory => .error .isADirectory
      | _ => .ok (t.put l (.file content))) := by
  rw [write, locate_join t here dir h]
  cases t.spot here dir name <;> rfl

/-- Moving a file from a name in one directory to a name in another. -/
theorem rename_join {dir' : Path} {other : List UInt8} (h : IsName name) (h' : IsName other) :
    t.rename here (dir.join ⟨name⟩) (dir'.join ⟨other⟩) = (do
      let old ← t.spot here dir name
      let new ← t.spot here dir' other
      match t.get? old with
      | none => .error .notFound
      | some .directory => .error .isADirectory
      | some (.file content) =>
        match t.get? new with
        | some .directory => .error .isADirectory
        | _ => .ok ((t.erase old).put new (.file content))) := by
  rw [rename, locate_join t here dir h, locate_join t here dir' h']
  -- The old name is looked for first
  cases t.spot here dir name with
  | error fault => rfl
  | ok old => cases t.spot here dir' other <;> rfl

/-- Removing the file under a name in a directory. -/
theorem removeFile_join (h : IsName name) :
    t.removeFile here (dir.join ⟨name⟩) = (do
      let l ← t.spot here dir name
      match t.get? l with
      | none => .error .notFound
      | some .directory => .error .isADirectory
      | some (.file _) => .ok (t.erase l)) := by
  rw [removeFile, locate_join t here dir h]
  cases t.spot here dir name <;> rfl

/-- A file that stands where a name in a directory leads is read under this name. -/
theorem read_join (h : IsName name) {l : Location} {content : ByteArray}
    (hspot : t.spot here dir name = .ok l) (hfile : t.get? l = some (.file content)) :
    t.read here (dir.join ⟨name⟩) = .ok content := by
  rw [read, find, walk_join_name t here dir h, hspot]
  simp only [bind, Except.bind, hfile]

variable {t here dir}

/-- A write that succeeds has put the content where the name leads. -/
theorem write_eq_ok {t' : FileTree} {content : ByteArray} (h : IsName name)
    (hwrite : t.write here (dir.join ⟨name⟩) content = .ok t') :
    ∃ l, t.spot here dir name = .ok l ∧ t.get? l ≠ some .directory ∧
      t' = t.put l (.file content) := by
  rw [write_join t here dir h, bind_eq_ok_iff] at hwrite
  obtain ⟨l, hspot, hwrite⟩ := hwrite
  split at hwrite
  · exact nomatch hwrite
  · next hl =>
    cases hwrite
    exact ⟨l, hspot, hl, rfl⟩

/-- A move that succeeds has taken the file away from one name and put it under the other. -/
theorem rename_eq_ok {dir' : Path} {other : List UInt8} {t' : FileTree} (h : IsName name)
    (h' : IsName other)
    (hrename : t.rename here (dir.join ⟨name⟩) (dir'.join ⟨other⟩) =
      .ok t') :
    ∃ old new content, t.spot here dir name = .ok old ∧ t.spot here dir' other = .ok new ∧
      t.get? old = some (.file content) ∧ t.get? new ≠ some .directory ∧
      t' = (t.erase old).put new (.file content) := by
  rw [rename_join t here dir h h', bind_eq_ok_iff] at hrename
  -- Both names are found, and what is under them decides
  obtain ⟨old, hold, hrename⟩ := hrename
  obtain ⟨new, hnew, hrename⟩ := bind_eq_ok_iff.1 hrename
  split at hrename
  · exact nomatch hrename
  · exact nomatch hrename
  · next content hfile =>
    split at hrename
    · exact nomatch hrename
    · next hdirectory =>
      cases hrename
      exact ⟨old, new, content, hold, hnew, hfile, hdirectory, rfl⟩

end Names

/-- A name is found where the path of its directory leads. -/
theorem spot_eq_ok_iff {t : FileTree} {here l : Location} {dir : Path} {name : List UInt8} :
    t.spot here dir name = .ok l ↔ l = dir.placeOf here name ∧
      t.reach here dir = .ok (dir.place here) ∧ name.length ≤ maxNameOctets := by
  rw [spot, bind_eq_ok_iff]
  constructor
  · rintro ⟨found, hreach, h⟩
    obtain ⟨rfl, -⟩ := reach_eq_ok hreach
    split at h
    · cases h
    · next hshort => exact ⟨(Except.ok.inj h).symm, hreach, Nat.not_lt.1 hshort⟩
  -- The directory is reached and the name is short enough, so no step of the lookup fails
  · rintro ⟨rfl, hreach, hshort⟩
    exact ⟨_, hreach, if_neg (Nat.not_lt.2 hshort)⟩

/-- A name is found as long as all directories stay. -/
theorem spot_mono {t t' : FileTree} (hstay : DirectoriesStay t t') {here l : Location} {dir : Path}
    {name : List UInt8} (h : t.spot here dir name = .ok l) : t'.spot here dir name = .ok l := by
  obtain ⟨hl, hreach, hshort⟩ := spot_eq_ok_iff.1 h
  exact spot_eq_ok_iff.2 ⟨hl, reach_mono hstay hreach, hshort⟩

/-- A file is written under a name where no directory is. -/
theorem write_of_spot {t : FileTree} {here l : Location} {dir : Path} {name : List UInt8}
    (h : IsName name) (hspot : t.spot here dir name = .ok l) (hfree : t.get? l ≠ some .directory)
    (content : ByteArray) :
    t.write here (dir.join ⟨name⟩) content = .ok (t.put l (.file content)) := by
  rw [write_join t here dir h, hspot]
  simp only [bind, Except.bind]

/-- A file is moved under a name where no directory is. -/
theorem rename_of_spot {t : FileTree} {here old new : Location} {dir dir' : Path}
    {name other : List UInt8} {content : ByteArray} (h : IsName name) (h' : IsName other)
    (hold : t.spot here dir name = .ok old) (hnew : t.spot here dir' other = .ok new)
    (hfile : t.get? old = some (.file content)) (hfree : t.get? new ≠ some .directory) :
    t.rename here (dir.join ⟨name⟩) (dir'.join ⟨other⟩) =
      .ok ((t.erase old).put new (.file content)) := by
  rw [rename_join t here dir h h', hold, hnew]
  simp only [bind, Except.bind, hfile]

/-- A file that has been written can be removed. -/
theorem removeFile_of_write {t t' : FileTree} {here : Location} {p : Path} {content : ByteArray}
    (h : t.write here p content = .ok t') :
    t'.removeFile here p = .ok (t'.erase (p.place here)) := by
  obtain ⟨rfl, hfree, hne, special, hlocate⟩ := write_eq_put h
  have hlocated := locate_mono (directoriesStay_put hne hfree (.file content)) hlocate
  obtain ⟨dir, name, hname, hp⟩ := eq_join_of_locate hlocate
  rw [hp] at hlocated hne ⊢
  rw [removeFile_join _ here dir hname, spot_of_locate hname hlocated]
  simp only [bind, Except.bind, t.get?_put_self hne]

/-- What stands where a path is located is read under the path. -/
theorem read_of_locate {t : FileTree} {here l : Location} {p : Path} {special : FileFault}
    {content : ByteArray} (h : t.locate here p special = .ok (l, false))
    (hfile : t.get? l = some (.file content)) : t.read here p = .ok content := by
  obtain ⟨dir, name, hname, rfl⟩ := eq_join_of_locate h
  exact read_join t here dir hname (spot_of_locate hname h) hfile

end FileTree

namespace FileSystem

open FileTree (SameBut)

/-- An operation on a tree either fails or changes it. -/
theorem run_change (op : FileTree → Except FileFault FileTree) (t : FileTree) :
    (change op).run t = match op t with
      | .error fault => (.error fault, t)
      | .ok t' => (.ok (), t') := by
  show (match op t with | .error _ => _ | .ok _ => _ : StateM FileTree _) t = _
  cases op t <;> rfl

end FileSystem

end TweetHarvest
