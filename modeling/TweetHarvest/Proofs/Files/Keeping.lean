import TweetHarvest.Files.Disk
import TweetHarvest.Proofs.Files.Changes

/-!
# File systems that keep a tree

What a program may rely on when it works on files: an operation that succeeds has done to the tree
what it should, and one that fails has left the tree alone, but for the file of a write.  Nothing is
said about when operations fail.  Making a directory and those above it then adds directories on the
way, and nothing else.

## Key results

- `FileSystem.watched`: a file system that shows the tree after every operation
- `Disk.run_attempt`: an operation without trouble does to a disk what it does to its tree
- `FileSystem.keeps_ofDisk`: a disk keeps its tree, whatever trouble it is in
- `FileSystem.Keeps.makeDirs_sameBut`: only directories on the way are new
- `FileSystem.reach_of_makeDirs`: a directory that has been made can be reached
-/

namespace TweetHarvest

namespace FileSystem

open FileTree (SameBut)

variable {σ : Type}

/-- An operation does to the tree of a state what it should, or it fails, and the tree is as is left
by failures. -/
def Does (tree : σ → FileTree) (left : FileTree → FileTree → Prop)
    (op : StateM σ (Except FileFault Unit)) (effect : FileTree → Except FileFault FileTree) : Prop :=
  ∀ s, ((op.run s).1 = .ok () ∧ effect (tree s) = .ok (tree (op.run s).2)) ∨
    ∃ fault, (op.run s).1 = .error fault ∧ left (tree s) (tree (op.run s).2)

/-- A failure leaves the tree as it was. -/
def Untouched (t t' : FileTree) : Prop := t' = t

/-- A failure leaves the tree as it was, or something in the file of the path. -/
def Spoiled (here : Location) (p : Path) (t t' : FileTree) : Prop :=
  t' = t ∨ ∃ remains, t.write here p remains = .ok t'

/-- A file system works on the tree of its state. -/
structure Keeps (fs : FileSystem (StateM σ)) (here : Location) (tree : σ → FileTree) : Prop where
  makeDir : ∀ p, Does tree Untouched (fs.makeDir p) (·.makeDir here p)
  write : ∀ p content, Does tree (Spoiled here p) (fs.write p content) (·.write here p content)
  rename : ∀ p q, Does tree Untouched (fs.rename p q) (·.rename here p q)
  removeFile : ∀ p, Does tree Untouched (fs.removeFile p) (·.removeFile here p)
  isDir : ∀ p s, tree ((fs.isDir p).run s).2 = tree s

/-! ## Disks -/

section Disk

variable {left : FileTree → FileTree → Prop} {effect : FileTree → Except FileFault FileTree}
  {spoiled : Trouble → StateM FileTree (Except FileFault Unit)}

/-- A change that is attempted on a disk does what it should, or fails. -/
private theorem does_attempt (hleft : ∀ t, left t t)
    (hspoiled : ∀ trouble t, ∃ fault, ((spoiled trouble).run t).1 = .error fault ∧
      left t ((spoiled trouble).run t).2) :
    Does Disk.tree left (Disk.attempt (change effect) spoiled) effect := by
  rintro ⟨t, _ | ⟨_ | trouble, troubles⟩⟩
  -- Only an operation in trouble does not come to the change itself
  case cons.some => exact .inr (hspoiled trouble t)
  all_goals
    show (((change effect).run t).1 = .ok () ∧ effect t = .ok ((change effect).run t).2) ∨
      ∃ fault, ((change effect).run t).1 = .error fault ∧ left t ((change effect).run t).2
    rw [run_change]
    cases heffect : effect t with
    | error fault => exact .inr ⟨fault, rfl, hleft t⟩
    | ok t' => exact .inl ⟨rfl, rfl⟩

/-- A disk keeps its tree, whatever trouble it is in. -/
theorem keeps_ofDisk (here : Location) : (ofDisk here).Keeps here Disk.tree where
  makeDir _ := does_attempt (fun _ => rfl) fun trouble _ => ⟨trouble.cause, rfl, rfl⟩
  write p content := by
    refine does_attempt (fun _ => .inl rfl) fun trouble t => ⟨trouble.cause, rfl, ?_⟩
    -- A write in trouble may leave something in the file
    rcases trouble with ⟨cause, _ | remains⟩
    · exact .inl rfl
    · show Spoiled here p t ((t.write here p remains).toOption.getD t)
      cases hwrite : t.write here p remains with
      | error fault => exact .inl rfl
      | ok t' => exact .inr ⟨remains, hwrite⟩
  rename _ _ := does_attempt (fun _ => rfl) fun trouble _ => ⟨trouble.cause, rfl, rfl⟩
  removeFile _ := does_attempt (fun _ => rfl) fun trouble _ => ⟨trouble.cause, rfl, rfl⟩
  isDir p := by rintro ⟨t, _ | ⟨_ | trouble, troubles⟩⟩ <;> rfl

end Disk

/-! ## Making directories -/

section MakeDirs

variable {tree : σ → FileTree} {here : Location} {fs : FileSystem (StateM σ)}

/-- Nothing comes of an operation but new directories at the locations `made`. -/
def Grows {α : Type} (tree : σ → FileTree) (made : Location → Prop) (op : StateM σ α) : Prop :=
  ∀ s, SameBut made (fun _ => False) (tree s) (tree (op.run s).2)

section Grows

variable {α β : Type} {made made' : Location → Prop}

/-- Nothing is done, so nothing is made. -/
private theorem Grows.pure {a : α} : Grows tree made (Pure.pure a : StateM σ α) := fun _ => .refl

/-- Two steps that make only directories at these locations do so together. -/
private theorem Grows.bind {x : StateM σ α} {f : α → StateM σ β} (hx : Grows tree made x)
    (hf : ∀ a, Grows tree made (f a)) : Grows tree made (x >>= f) := fun s =>
  (hx s).trans (hf _ _)

/-- Directories may be made at more locations. -/
private theorem Grows.mono {x : StateM σ α} (hx : Grows tree made x)
    (h : ∀ l, made l → made' l) : Grows tree made' x := fun s => (hx s).mono h fun _ => id

end Grows

variable (hfs : fs.Keeps here tree)

include hfs

/-- Looking for the directory changes nothing. -/
private theorem grows_settle (made : Location → Prop) (p : Path) (result : Except FileFault Unit) :
    Grows tree made (makeDirsUp.settle fs p result) := by
  rcases result with fault | ⟨⟩
  · refine Grows.bind (fun s => ?_) fun there => ?_
    · rw [hfs.isDir]
      exact .refl
    · split <;> exact .pure
  · exact .pure

/-- A directory is made where its path passes. -/
private theorem grows_makeDir (p : Path) : Grows tree (p.Passes here) (fs.makeDir p) := by
  intro s
  rcases hfs.makeDir p s with ⟨-, hmake⟩ | ⟨fault, -, hsame⟩
  · obtain ⟨hput, hnone, hne⟩ := FileTree.makeDir_eq_ok hmake
    -- The one location that is new is where the path leads, and nothing has been there
    rw [hput]
    intro l _
    rw [FileTree.get?_put _ hne]
    split
    · next hl => exact .inr ⟨hl ▸ p.passes_place here, by rw [hl, hnone], rfl⟩
    · exact .inl rfl
  · rw [show tree _ = tree s from hsame]
    exact .refl

/-- The induction is on the levels that are left to go up: what is new on the way to the parent is
on the way to the directory itself. -/
private theorem grows_makeDirsUp (levels : Nat) (p : Path) :
    Grows tree (p.Passes here) (fs.makeDirsUp levels p) := by
  induction levels generalizing p with
  | zero =>
    unfold makeDirsUp
    split
    · exact .pure
    · refine (grows_makeDir hfs p).bind fun result => ?_
      split
      · exact .pure
      · exact .pure
      · exact grows_settle hfs _ p _
  | succ levels ih =>
    unfold makeDirsUp
    split
    · exact .pure
    · refine (grows_makeDir hfs p).bind fun result => ?_
      split
      · exact .pure
      · split
        · next parent hlevels hparent =>
          obtain rfl := Nat.succ.inj hlevels
          -- After the parent has been made the directory itself is tried again
          refine ((ih parent).mono fun _ => Path.Passes.of_parent hparent).bind fun above => ?_
          split
          · exact .pure
          · exact (grows_makeDir hfs p).bind fun _ => grows_settle hfs _ p _
        · exact .pure
      · exact grows_settle hfs _ p _

/-- Making a directory and those above it adds directories on the way, and nothing else. -/
theorem Keeps.makeDirs_sameBut (p : Path) (s : σ) :
    SameBut (p.Passes here) (fun _ => False) (tree s) (tree ((fs.makeDirs p).run s).2) :=
  grows_makeDirsUp hfs _ p s

end MakeDirs

/-! ## Directories that have been made -/

section Reached

variable (here : Location) (p : Path)

/-- The directory can be reached if the operation succeeds. -/
private def Reaches (op : StateM Disk (Except FileFault Unit)) (d : Disk) : Prop :=
  (op.run d).1 = .ok () → (op.run d).2.tree.reach here p = .ok (p.place here)

/-- A directory that is seen can be reached, whatever trouble the disk is in. -/
private theorem reach_of_isDir {d : Disk} (h : (((ofDisk here).isDir p).run d).1 = true) :
    d.tree.reach here p = .ok (p.place here) := by
  have hdir : d.tree.isDir here p = true := by
    obtain ⟨t, _ | ⟨_ | trouble, troubles⟩⟩ := d
    · exact h
    · exact h
    · exact nomatch h
  unfold FileTree.isDir at hdir
  split at hdir
  · next l hfound =>
    obtain ⟨rfl, -⟩ := FileTree.find_eq_ok hfound
    exact FileTree.reach_of_find hfound
  · exact nomatch hdir

/-- After two steps a path is reached if it is after the second, begun where the first has ended. -/
private theorem Reaches.bind {α : Type} {x : StateM Disk α}
    {f : α → StateM Disk (Except FileFault Unit)} {d : Disk}
    (h : Reaches here p (f (x.run d).1) (x.run d).2) : Reaches here p (x >>= f) d := h

/-- An operation that fails need not reach anything. -/
private theorem reaches_error (fault : FileFault) (d : Disk) :
    Reaches here p (pure (.error fault)) d := by
  intro hok
  cases hok

/-- A directory that has been made is reached under its path. -/
private theorem reaches_makeDir (d : Disk) : Reaches here p ((ofDisk here).makeDir p) d := by
  intro hok
  rcases (keeps_ofDisk here).makeDir p d with ⟨-, hmake⟩ | ⟨fault, hfault, -⟩
  · exact FileTree.reach_of_makeDir hmake
  · rw [hfault] at hok
    exact nomatch hok

/-- A failure does not matter if the directory is seen then. -/
private theorem reaches_settle {result : Except FileFault Unit} {d : Disk}
    (hresult : result = .ok () → d.tree.reach here p = .ok (p.place here)) :
    Reaches here p (makeDirsUp.settle (ofDisk here) p result) d := by
  rcases result with fault | ⟨⟩
  · unfold makeDirsUp.settle
    apply Reaches.bind
    -- Looking does not change the tree, so the directory is there still
    have hsame := (keeps_ofDisk here).isDir p d
    cases hseen : (((ofDisk here).isDir p).run d).1 with
    | false => exact nofun
    | true =>
      intro _
      show FileTree.reach (((ofDisk here).isDir p).run d).2.tree here p = _
      rw [hsame]
      exact reach_of_isDir here p hseen
  · exact fun _ => hresult rfl

/-- A directory that has been made, with those above it, can be reached, whatever trouble the disk
is in.  Only the last operation counts: the directory is made or seen by it. -/
theorem reach_of_makeDirs {d : Disk} (hhere : d.tree.get? here = some .directory)
    (hok : (((ofDisk here).makeDirs p).run d).1 = .ok ()) :
    (((ofDisk here).makeDirs p).run d).2.tree.reach here p = .ok (p.place here) := by
  have h : Reaches here p ((ofDisk here).makeDirs p) d := by
    unfold makeDirs makeDirsUp
    split
    · next hempty => exact fun _ => FileTree.reach_of_octets_eq hempty hhere
    · apply Reaches.bind
      split
      -- It is made at once, or after those above it
      · next hmade => exact fun _ => reaches_makeDir here p d hmade
      · split
        · apply Reaches.bind
          split
          · exact reaches_error here p _ _
          · apply Reaches.bind
            exact reaches_settle here p (reaches_makeDir here p _)
        · exact reaches_error here p _ _
      -- Any other failure matters unless the directory is there already
      · apply reaches_settle
        intro hmade
        cases hmade
  exact h hok

end Reached

/-! ## Watching -/

section Watching

/-- A state, and the trees that the operations so far have left, the last one at the end. -/
structure Watched (σ : Type) where
  state : σ
  trees : List FileTree

variable (tree : σ → FileTree)

/-- Performs an operation and looks at the tree that it leaves. -/
def watch {α : Type} (op : StateM σ α) : StateM (Watched σ) α := fun w =>
  let (a, s) := op.run w.state
  (a, ⟨s, w.trees ++ [tree s]⟩)

/-- A watched operation does what it does, and the tree behind it is kept. -/
theorem run_watch {α : Type} (op : StateM σ α) (w : Watched σ) :
    (watch tree op).run w =
      ((op.run w.state).1, ⟨(op.run w.state).2, w.trees ++ [tree (op.run w.state).2]⟩) := rfl

/-- A file system that is watched. -/
def watched (fs : FileSystem (StateM σ)) : FileSystem (StateM (Watched σ)) := fs.lift (watch tree)

variable (fs : FileSystem (StateM σ)) (w : Watched σ)

/-- Writing is watched like any operation. -/
theorem run_watched_write (p : Path) (content : ByteArray) :
    ((fs.watched tree).write p content).run w = (watch tree (fs.write p content)).run w := rfl

/-- Moving is watched like any operation. -/
theorem run_watched_rename (p q : Path) :
    ((fs.watched tree).rename p q).run w = (watch tree (fs.rename p q)).run w := rfl

/-- Removing is watched like any operation. -/
theorem run_watched_removeFile (p : Path) :
    ((fs.watched tree).removeFile p).run w = (watch tree (fs.removeFile p)).run w := rfl

end Watching

end FileSystem

/-! ## Disks without trouble -/

namespace Disk

/-- No trouble comes with the operation after `count` others. -/
def IsCalmAfter (d : Disk) (count : Nat) : Prop :=
  ∀ trouble, d.troubles[count]? ≠ some (some trouble)

/-- An operation without trouble does to the disk what it does to the tree. -/
theorem run_attempt {α : Type} (op : StateM FileTree α) (spoiled : Trouble → StateM FileTree α)
    {d : Disk} (h : d.IsCalmAfter 0) :
    (attempt op spoiled).run d = ((op.run d.tree).1, ⟨(op.run d.tree).2, d.troubles.tail⟩) := by
  obtain ⟨t, _ | ⟨_ | trouble, troubles⟩⟩ := d
  · rfl
  · rfl
  · exact absurd rfl (h trouble)

/-- A disk without troubles is calm from the start. -/
theorem isCalmAfter_nil (t : FileTree) (count : Nat) : IsCalmAfter ⟨t, []⟩ count := by
  simp [IsCalmAfter]

/-- On a disk without troubles a change either fails or takes place. -/
theorem run_attempt_change (op : FileTree → Except FileFault FileTree)
    (spoiled : Trouble → StateM FileTree (Except FileFault Unit)) (t : FileTree) :
    (attempt (FileSystem.change op) spoiled).run ⟨t, []⟩ =
      match op t with
      | .error fault => (.error fault, ⟨t, []⟩)
      | .ok t' => (.ok (), ⟨t', []⟩) := by
  rw [run_attempt _ _ (isCalmAfter_nil t 0), FileSystem.run_change]
  cases op t <;> rfl

/-- On a disk without troubles a directory is made whose parent is there. -/
theorem run_makeDirs_of_makeDir {here : Location} {p : Path} {t t' : FileTree} (hp : p.octets ≠ [])
    (h : t.makeDir here p = .ok t') :
    ((FileSystem.ofDisk here).makeDirs p).run ⟨t, []⟩ = (.ok (), ⟨t', []⟩) := by
  have hmake : ((FileSystem.ofDisk here).makeDir p).run ⟨t, []⟩ = (.ok (), ⟨t', []⟩) := by
    show (attempt (FileSystem.change (·.makeDir here p)) refuse).run ⟨t, []⟩ = _
    rw [run_attempt_change, h]
  unfold FileSystem.makeDirs FileSystem.makeDirsUp
  rw [if_neg hp, StateT.run_bind, hmake]
  rfl

end Disk

end TweetHarvest
