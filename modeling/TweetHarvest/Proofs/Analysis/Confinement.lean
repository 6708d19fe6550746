import TweetHarvest.Analysis.Basic
import TweetHarvest.Files.Disk
import TweetHarvest.Proofs.Files.Agreement

/-!
# Analyses stay in the shared directory

An input is looked up as a relative path without two dots behind the shared directory, whatever it
is made of.  So the analysis is the same on all trees that agree on the shared directory: what
stands elsewhere, and whether anything does, cannot be told from it.

## Key results

- `Analysis.resolve_eq_ok`: what an input is looked up as
- `FileTree.SameOn.bind`: a computation does the same on two trees if its steps do
- `Analysis.envelope_confined`: the outcome depends on nothing but the shared directory
-/

namespace TweetHarvest

open TweetHarvest.Path (segments dot)

/-! ## Computations that do the same on two trees -/

namespace FileTree

/-- With the same troubles ahead, a computation gives the same on both trees, changes neither and
meets the same troubles. -/
def SameOn (t t' : FileTree) {α : Type} (x : StateM Disk α) : Prop :=
  ∀ troubles, ∃ a left,
    x.run ⟨t, troubles⟩ = (a, ⟨t, left⟩) ∧ x.run ⟨t', troubles⟩ = (a, ⟨t', left⟩)

namespace SameOn

variable {t t' : FileTree} {α β : Type} {x : StateM Disk α}

/-- What is not done is the same on any two trees. -/
theorem pure (a : α) : SameOn t t' (Pure.pure a : StateM Disk α) :=
  fun troubles => ⟨a, troubles, rfl, rfl⟩

/-- What a computation continues with may rely on what it can have given. -/
theorem bind {f : α → StateM Disk β} (hx : SameOn t t' x)
    (hf : ∀ a, (∃ troubles, (x.run ⟨t, troubles⟩).1 = a) → SameOn t t' (f a)) :
    SameOn t t' (x >>= f) := by
  intro troubles
  obtain ⟨a, between, h, h'⟩ := hx troubles
  obtain ⟨b, left, hb, hb'⟩ := hf a ⟨troubles, by rw [h]⟩ between
  refine ⟨b, left, ?_, ?_⟩
  · rw [StateT.run_bind, h]
    exact hb
  · rw [StateT.run_bind, h']
    exact hb'

/-- An operation that only looks at the tree. -/
theorem attempt {look : FileTree → α} (h : look t = look t') (blind : Trouble → α) :
    SameOn t t' (Disk.attempt (do return look (← get)) fun trouble => return blind trouble) := by
  intro troubles
  match troubles with
  | some trouble :: rest => exact ⟨blind trouble, rest, rfl, rfl⟩
  | none :: rest => exact ⟨look t, rest, rfl, h ▸ rfl⟩
  | [] => exact ⟨look t, [], rfl, h ▸ rfl⟩

end SameOn

section Files

variable {t : FileTree} {here : Location} {p : Path}

/-- A path is one of a file if it leads to a file. -/
theorem isFile_iff :
    t.isFile here p = true ↔ ∃ l content, t.find here p = .ok (l, .file content) := by
  unfold isFile
  split
  · next l content hfound => simp [hfound]
  · next hnone => simpa using hnone

/-- A file that a path leads to is read under this path. -/
theorem read_of_find {l : Location} {content : ByteArray}
    (h : t.find here p = .ok (l, .file content)) : t.read here p = .ok content := by
  rw [read, h]
  rfl

end Files

end FileTree

/-- What is seen on a disk is seen on its tree, or an operation in trouble tells it. -/
theorem Disk.attempt_fst {α : Type} (look : FileTree → α) (blind : Trouble → α) (d : Disk) :
    ((attempt (do return look (← get)) fun trouble => return blind trouble).run d).1 = look d.tree ∨
      ∃ trouble, ((attempt (do return look (← get)) fun trouble => return blind trouble).run d).1 =
        blind trouble := by
  obtain ⟨tree, troubles⟩ := d
  match troubles with
  | some trouble :: _ => exact .inr ⟨trouble, rfl⟩
  | none :: _ => exact .inl rfl
  | [] => exact .inl rfl

namespace Analysis

/-! ## What an input is looked up as -/

/-- An input is looked up as a relative path without two dots behind the shared directory. -/
theorem resolve_eq_ok {shared path : Path} {input shown : String}
    (h : resolve shared input = .ok (path, shown)) :
    ∃ rest : Path, path = shared.join rest ∧ rest.octets ≠ [] ∧ rest.isAbsolute = false ∧
      [dot, dot] ∉ segments rest.octets := by
  unfold resolve at h
  dsimp only at h
  split at h
  · exact nomatch h
  · next hinner =>
    obtain ⟨rfl, -⟩ := Prod.mk.inj (Except.ok.inj h)
    -- What is left is accepted only if all its components are names or dots
    simp only [Bool.or_eq_true, decide_eq_true_eq, Bool.not_eq_true', not_or, Bool.not_eq_false,
      List.all_eq_true] at hinner
    obtain ⟨hne, hinner⟩ := hinner
    refine ⟨_, rfl, hne, ?_, ?_⟩
    · by_contra habsolute
      exact nomatch hinner _ ((Path.root_mem_components_iff _).2 (by simpa using habsolute))
    · intro hdots
      exact nomatch hinner _ ((Path.parent_mem_components_iff _).2 hdots)

/-! ## Looking below the shared directory -/

/-- Names sorted are the same in whatever order they came. -/
theorem mergeSort_congr {names names' : List String} (h : names.Perm names') :
    names.mergeSort (fun a b => !(b < a)) = names'.mergeSort fun a b => !(b < a) := by
  have hsorted : ∀ l : List String,
      (l.mergeSort fun a b => !(b < a)).Pairwise fun a b => !(b < a) := by
    intro l
    refine List.pairwise_mergeSort (fun a b c hab hbc => ?_) (fun a b => ?_) l
    · simp only [Bool.not_eq_true', decide_eq_false_iff_not, String.not_lt] at *
      exact String.le_trans hab hbc
    · simp only [Bool.or_eq_true, Bool.not_eq_true', decide_eq_false_iff_not, String.not_lt]
      exact String.le_total ..
  -- The order is total and antisymmetric, so it leaves one arrangement of the names
  refine List.Perm.eq_of_pairwise (fun a b _ _ hab hba => ?_) (hsorted names) (hsorted names')
    ((List.mergeSort_perm ..).trans (h.trans (List.mergeSort_perm ..).symm))
  simp only [Bool.not_eq_true', decide_eq_false_iff_not, String.not_lt] at hab hba
  exact String.le_antisymm hab hba

/-- What is shown of the names in the shared directory of a tree. -/
def listing (here : Location) (shared : Path) (t : FileTree) : List String :=
  match t.names here shared with
  | .ok names => (names.map Utf8.shown).mergeSort (fun a b => !(b < a))
  | .error _ => []

/-- On a disk the files are listed from its tree, and none of them if there is trouble. -/
theorem available_ofDisk (here : Location) (shared : Path) :
    available (FileSystem.ofDisk here) shared =
      Disk.attempt (do return listing here shared (← get)) fun _ => return [] := by
  funext d
  obtain ⟨t, troubles⟩ := d
  match troubles with
  | some trouble :: _ => rfl
  | none :: _ | [] =>
    show ((match t.names here shared with | .ok names => _ | .error _ => _ : StateM Disk _).run
      ⟨t, _⟩) = (listing here shared t, _)
    unfold listing
    cases t.names here shared <;> rfl

section Agreement

variable {here : Location} {shared : Path} {t t' : FileTree}

/-- The same files are listed from two trees that agree on the directory. -/
theorem listing_congr (h : t.AgreeOn here shared t') (ht : t.Distinct) (ht' : t'.Distinct) :
    listing here shared t = listing here shared t' := by
  unfold listing
  cases hnames : t.names here shared with
  | ok names =>
    obtain ⟨names', hnames', hperm⟩ := h.names_perm ht ht' hnames
    simp only [hnames']
    exact mergeSort_congr (hperm.map _)
  | error fault =>
    cases hnames' : t'.names here shared with
    | error fault' => rfl
    | ok names' =>
      -- The other tree cannot list what this one cannot
      obtain ⟨names, hok, -⟩ := h.symm.names_perm ht' ht hnames'
      exact nomatch hnames.symm.trans hok

/-- Whether an input names a file, and what is in it, is the same on both trees. -/
theorem sameOn_analyze (h : t.AgreeOn here shared t') (ht : t.Distinct) (ht' : t'.Distinct)
    (hshared : shared.octets ≠ []) (input : String) :
    FileTree.SameOn t t' (analyze (FileSystem.ofDisk here) shared input) := by
  unfold analyze
  split
  · exact .pure _
  · next path shown hresolve =>
    obtain ⟨rest, rfl, hne, hrelative, hdots⟩ := resolve_eq_ok hresolve
    have hfind := h.find_join_iff hshared hrelative hne hdots
    refine .bind (.attempt ?_ fun _ => false) fun isFile hseen => ?_
    · rw [Bool.eq_iff_iff, FileTree.isFile_iff, FileTree.isFile_iff]
      simp only [hfind]
    cases isFile with
    | false =>
      -- Without a file the names in the shared directory are told
      rw [if_neg Bool.false_ne_true, available_ofDisk]
      exact .bind (.attempt (listing_congr h ht ht') fun _ => []) fun _ _ => .pure _
    | true =>
      rw [if_pos rfl]
      -- The file was seen, so it is there, and in the other tree as well
      obtain ⟨troubles, hseen⟩ := hseen
      have hfile : t.isFile here (shared.join rest) = true := by
        rcases Disk.attempt_fst (FileTree.isFile · here (shared.join rest)) (fun _ => false)
          ⟨t, troubles⟩ with hlook | ⟨_, hblind⟩
        · exact hlook.symm.trans hseen
        · exact nomatch hblind.symm.trans hseen
      obtain ⟨l, content, hfound⟩ := FileTree.isFile_iff.1 hfile
      have hread : t.read here (shared.join rest) = t'.read here (shared.join rest) := by
        rw [FileTree.read_of_find hfound, FileTree.read_of_find ((hfind _).1 hfound)]
      exact .bind (.attempt hread fun trouble => Except.error trouble.cause) fun _ _ => .pure _

/-- The outcome of an analysis depends on nothing outside the shared directory, whatever the input
is made of. -/
theorem envelope_confined (h : t.AgreeOn here shared t') (ht : t.Distinct) (ht' : t'.Distinct)
    (hshared : shared.octets ≠ []) (input : Option String) (troubles : List (Option Trouble)) :
    ((envelope (FileSystem.ofDisk here) shared input).run ⟨t, troubles⟩).1 =
      ((envelope (FileSystem.ofDisk here) shared input).run ⟨t', troubles⟩).1 := by
  have hsame : FileTree.SameOn t t' (envelope (FileSystem.ofDisk here) shared input) := by
    unfold envelope
    split
    · exact .pure _
    · exact .bind (sameOn_analyze h ht ht' hshared _) fun _ _ => .pure _
  obtain ⟨e, left, he, he'⟩ := hsame troubles
  rw [he, he']

end Agreement

/-- A tree with a note in the shared directory. -/
def sampleTree : FileTree :=
  (FileTree.empty.put (.ofTexts ["shared"]) .directory).put (.ofTexts ["shared", "note.txt"])
    (.file "42".toUTF8)

/-- The same tree with a secret beside the shared directory. -/
def secretTree : FileTree := sampleTree.put (.ofTexts ["secret.txt"]) (.file "hidden".toUTF8)

/-- The two trees agree on the shared directory. -/
theorem agreeOn_secretTree : sampleTree.AgreeOn [] (.ofText "/shared") secretTree where
  isThere_iff := iff_of_true ⟨(.ofTexts ["shared"], .directory), rfl⟩
    ⟨(.ofTexts ["shared"], .directory), rfl⟩
  same _ l hl := by
    refine FileTree.get?_put_of_ne _ ?_ _
    rintro rfl
    exact absurd hl (by decide)

/-- An input that leads up from the shared directory does not tell whether the secret is there. -/
theorem envelope_confined_secret :
    let outcome (t : FileTree) :=
      ((envelope (FileSystem.ofDisk []) (.ofText "/shared") (some "/shared/../secret.txt")).run
        ⟨t, []⟩).1
    sampleTree.isFile [] (.ofText "/shared/../secret.txt") = false ∧
    secretTree.isFile [] (.ofText "/shared/../secret.txt") = true ∧
    outcome sampleTree = outcome secretTree :=
  have hdistinct : sampleTree.Distinct := (FileTree.distinct_empty.put ..).put ..
  ⟨by decide +kernel, by decide +kernel,
    envelope_confined agreeOn_secretTree hdistinct (hdistinct.put ..) (by decide) _ _⟩

end Analysis

end TweetHarvest
