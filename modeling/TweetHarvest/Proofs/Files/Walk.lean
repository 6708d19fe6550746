import TweetHarvest.Files.System
import TweetHarvest.Proofs.Files.Steps
import TweetHarvest.Proofs.Outcome

/-!
# Walking through a tree of files

Where a walk ends does not depend on the tree, only whether it gets there.  A directory that can be
entered by a path can be entered by every path with the same start and steps, and as long as the
directories of the tree stay.

## Key results

- `Path.place_withFileName`: another name at the end of a path names a place beside that of the path
- `FileTree.enter_steps`: segments that stand for nothing do not matter
- `FileTree.reach_eq_ok`: a directory is reached at the place that its path names
- `FileTree.reach_mono`: it is reached as long as all directories stay
- `FileTree.find_of_reach`, `FileTree.reach_of_find`: a directory that is reached is found, and the
  other way round
-/

namespace TweetHarvest

/-- Where a segment leads, whatever is there. -/
def Location.next (l : Location) (segment : List UInt8) : Location :=
  if Path.isIdle segment then l
  else if segment = [Path.dot, Path.dot] then l.dropLast
  else l ++ [segment]

/-- Where segments lead, whatever is there. -/
def Location.resolve (l : Location) (segments : List (List UInt8)) : Location :=
  segments.foldl Location.next l

/-- Segments that stand for nothing lead nowhere else. -/
theorem Location.resolve_filter (l : Location) (segments : List (List UInt8)) :
    l.resolve (segments.filter fun segment => !Path.isIdle segment) = l.resolve segments := by
  induction segments generalizing l with
  | nil => rfl
  | cons segment rest ih =>
    rw [List.filter_cons]
    split
    · exact ih (l.next segment)
    · next hidle =>
      have hnext : l.next segment = l := if_pos (by simpa using hidle)
      show l.resolve (rest.filter _) = (l.next segment).resolve rest
      rw [ih, hnext]

/-- A segment other than two dots stays at a location or leads down from it. -/
theorem Location.isPrefix_next (l : Location) {segment : List UInt8}
    (h : segment ≠ [Path.dot, Path.dot]) :
    l <+: l.next segment := by
  rw [Location.next, if_neg h]
  split
  · exact List.prefix_refl _
  · exact List.prefix_append ..

/-- Segments without two dots stay below a location. -/
theorem Location.isPrefix_resolve (l : Location) {segments : List (List UInt8)}
    (h : [Path.dot, Path.dot] ∉ segments) : l <+: l.resolve segments := by
  induction segments generalizing l with
  | nil => exact List.prefix_refl _
  | cons segment rest ih =>
    obtain ⟨hsegment, hrest⟩ := not_or.1 (mt List.mem_cons.2 h)
    exact (l.isPrefix_next (Ne.symm hsegment)).trans (ih (l.next segment) hrest)

namespace Path

/-- The location from which a path starts, seen from the directory `here`. -/
def origin (here : Location) (p : Path) : Location := if p.isAbsolute then [] else here

/-- The location that a path names, seen from the directory `here`. -/
def place (here : Location) (p : Path) : Location :=
  Location.resolve (p.origin here) (steps p.octets)

/-- The locations that a path passes on its way. -/
def Passes (here : Location) (p : Path) (l : Location) : Prop :=
  ∃ count, l = Location.resolve (p.origin here) ((steps p.octets).take count)

/-- A path passes the location that it names. -/
theorem passes_place (here : Location) (p : Path) : p.Passes here (p.place here) :=
  ⟨(steps p.octets).length, by rw [List.take_length, place]⟩

/-- What the parent of a path passes is passed by the path. -/
theorem Passes.of_parent {here : Location} {p q : Path} {l : Location} (hq : p.parent? = some q)
    (h : q.Passes here l) : p.Passes here l := by
  obtain ⟨habsolute, hsteps⟩ := steps_parent hq
  obtain ⟨count, rfl⟩ := h
  refine ⟨min count ((steps p.octets).length - 1), ?_⟩
  rw [origin, origin, habsolute, hsteps, List.dropLast_eq_take, List.take_take]

/-- The location of a name in the directory that a path names. -/
def placeOf (here : Location) (dir : Path) (name : List UInt8) : Location :=
  dir.place here ++ [name]

/-- The place of a name is not the root. -/
theorem placeOf_ne_nil (here : Location) (dir : Path) (name : List UInt8) :
    dir.placeOf here name ≠ [] := by
  simp [placeOf]

/-- Different names in a directory have different places. -/
theorem placeOf_inj {here : Location} {dir : Path} {name other : List UInt8} :
    dir.placeOf here name = dir.placeOf here other ↔ name = other := by
  simp [placeOf]

/-- A path whose last step is a name leads to this name, in the directory that the steps before it
lead to. -/
theorem place_of_steps (here : Location) {p : Path} {before : List (List UInt8)} {name : List UInt8}
    (h : steps p.octets = before ++ [name]) (hidle : isIdle name = false) (hdots : name ≠ [dot, dot]) :
    p.place here = Location.resolve (p.origin here) before ++ [name] := by
  rw [place, h, Location.resolve, List.foldl_append]
  simp [Location.next, Location.resolve, hidle, hdots]

/-- A name put behind a path leads to its location in the directory. -/
theorem place_join_name (here : Location) (dir : Path) {name : List UInt8} (h : IsName name) :
    (dir.join ⟨name⟩).place here = dir.placeOf here name := by
  rw [place_of_steps here (steps_join_name dir h) h.not_idle h.not_dots, origin,
    isAbsolute_join_name dir h]
  rfl

/-- The name that a path ends in is the last one of the place that it names. -/
theorem place_of_fileName? (here : Location) {p : Path} {last : List UInt8}
    (h : p.fileName? = some last) : p.place here = (p.place here).dropLast ++ [last] := by
  obtain ⟨before, hsteps, hidle, hdots, -⟩ := steps_of_fileName? h
  rw [place_of_steps here hsteps hidle hdots, List.dropLast_concat]

/-- Another name at the end of a path names a place beside that of the path. -/
theorem place_withFileName (here : Location) {p : Path} {last : List UInt8} {other : List UInt8}
    (h : p.fileName? = some last) (hother : IsName other) :
    (p.withFileName other).place here =
      (p.place here).dropLast ++ [other] := by
  obtain ⟨before, hbefore, hidle, hdots, -⟩ := steps_of_fileName? h
  obtain ⟨dir, hjoin, habsolute, hsteps⟩ := withFileName_eq h
  obtain ⟨hsame, -⟩ := List.append_inj' (hsteps.symm.trans hbefore) rfl
  -- The other name stands behind the same steps
  have hjoined : steps (dir.join ⟨other⟩).octets = before ++ [other] := by
    rw [steps_join_name dir hother, hsame]
  have horigin : (dir.join ⟨other⟩).origin here = p.origin here := by
    simp only [origin, isAbsolute_join_name dir hother, habsolute]
  rw [place_of_steps here hbefore hidle hdots, List.dropLast_concat, hjoin, ← horigin]
  exact place_of_steps here hjoined hother.not_idle hother.not_dots

end Path

namespace FileTree

open TweetHarvest.Path (steps isIdle segments dot null)

/-! ## Entering directories -/

/-- A location, provided that there is a directory. -/
def directory (t : FileTree) (l : Location) : Except FileFault Location :=
  match t.get? l with
  | none => .error .notFound
  | some (.file _) => .error .notADirectory
  | some .directory => .ok l

/-- Follows segments to a directory. -/
def enter (t : FileTree) (l : Location) (parts : List (List UInt8)) : Except FileFault Location := do
  t.directory (← t.followAll l parts)

/-- A location is one that can be entered exactly if a directory stands there. -/
theorem directory_eq_ok_iff {t : FileTree} {l m : Location} :
    t.directory l = .ok m ↔ m = l ∧ t.get? l = some .directory := by
  unfold directory
  split
  · next h => simp [h]
  · next h => simp [h]
  · next h => simp [h, eq_comm]

/-- A segment can be followed only from a directory. -/
theorem follow_eq (t : FileTree) (l : Location) (segment : List UInt8) :
    t.follow l segment = (do
      let m ← t.directory l
      if isIdle segment = false ∧ segment ≠ [dot, dot] ∧ maxNameOctets < segment.length then
        .error .nameTooLong
      else .ok (Location.next m segment)) := by
  unfold follow directory
  rcases t.get? l with _ | _ | _
  · rfl
  · rfl
  · simp only [bind, Except.bind, Location.next]
    -- Only names are too long, and not what stands for nothing or leads up
    by_cases hidle : isIdle segment = true
    · simp [hidle]
    · by_cases hdots : segment = [dot, dot]
      · subst hdots
        rfl
      · simp [hidle, hdots]

/-- Without segments a walk ends where it begins, if that is a directory. -/
theorem enter_nil (t : FileTree) (l : Location) : t.enter l [] = t.directory l := rfl

/-- A walk follows the first segment and goes on from there. -/
theorem enter_cons (t : FileTree) (l : Location) (segment : List UInt8)
    (rest : List (List UInt8)) :
    t.enter l (segment :: rest) = (do t.enter (← t.follow l segment) rest) := by
  simp only [enter, followAll]
  cases t.follow l segment <;> rfl

/-- Entering starts from a directory. -/
theorem enter_eq_directory_bind (t : FileTree) (l : Location) (parts : List (List UInt8)) :
    t.enter l parts = (do t.enter (← t.directory l) parts) := by
  -- Without a directory to start from even no segment can be followed
  cases hl : t.directory l with
  | ok m =>
    obtain ⟨rfl, -⟩ := directory_eq_ok_iff.1 hl
    rfl
  | error fault =>
    cases parts with
    | nil => rw [enter_nil, hl]; rfl
    | cons segment rest => rw [enter_cons, follow_eq, hl]; rfl

/-- Segments that stand for nothing do not matter. -/
theorem enter_filter (t : FileTree) (l : Location) (parts : List (List UInt8)) :
    t.enter l (parts.filter fun segment => !isIdle segment) = t.enter l parts := by
  induction parts generalizing l with
  | nil => rfl
  | cons segment rest ih =>
    by_cases hidle : isIdle segment = true
    -- An idle segment asks for a directory and stays there, as does the rest
    · rw [List.filter_cons_of_neg (by simp [hidle]), ih, enter_cons, follow_eq,
        enter_eq_directory_bind]
      cases hl : t.directory l with
      | error fault => rfl
      | ok m => simp [bind, Except.bind, hidle, Location.next]
    · rw [List.filter_cons_of_pos (by simp [hidle]), enter_cons, enter_cons]
      cases t.follow l segment with
      | error fault => rfl
      | ok next => exact ih next

/-- A walk along two rows of segments goes along the first and then along the second. -/
theorem enter_append (t : FileTree) (l : Location) (a b : List (List UInt8)) :
    t.enter l (a ++ b) = (do t.enter (← t.enter l a) b) := by
  induction a generalizing l with
  | nil => exact t.enter_eq_directory_bind l b
  | cons segment rest ih =>
    rw [List.cons_append, enter_cons, enter_cons]
    cases t.follow l segment with
    | error fault => rfl
    | ok next => exact ih next

/-- Following segments one after the other is entering a directory before the last ones. -/
theorem followAll_append (t : FileTree) (l : Location) (a : List (List UInt8))
    {b : List (List UInt8)} (hb : b ≠ []) :
    t.followAll l (a ++ b) = (do t.followAll (← t.enter l a) b) := by
  induction a generalizing l with
  | nil =>
    -- The first of the last segments can be followed only from a directory
    obtain ⟨segment, rest, rfl⟩ := List.exists_cons_of_ne_nil hb
    rw [List.nil_append, enter_nil, followAll, follow_eq]
    cases hl : t.directory l with
    | error fault => rfl
    | ok m =>
      obtain ⟨rfl, -⟩ := directory_eq_ok_iff.1 hl
      simp only [bind, Except.bind, followAll, follow_eq, hl]
  | cons segment rest ih =>
    rw [List.cons_append, enter_cons, followAll]
    cases t.follow l segment with
    | error fault => rfl
    | ok next => exact ih next

/-- What segments can be followed to stands where they lead. -/
theorem followAll_eq_ok {t : FileTree} {l m : Location} {parts : List (List UInt8)}
    (h : t.followAll l parts = .ok m) : m = Location.resolve l parts := by
  induction parts generalizing l with
  | nil =>
    cases h
    rfl
  | cons segment rest ih =>
    rw [followAll, bind_eq_ok_iff] at h
    obtain ⟨next, hnext, h⟩ := h
    -- The first segment leads to the next location, and the others go on from there
    rw [follow_eq, bind_eq_ok_iff] at hnext
    obtain ⟨found, hfound, hnext⟩ := hnext
    obtain ⟨rfl, -⟩ := directory_eq_ok_iff.1 hfound
    split at hnext
    · exact nomatch hnext
    · cases hnext
      exact ih h

/-- A directory that is entered stands where the segments lead. -/
theorem enter_eq_ok {t : FileTree} {l m : Location} {parts : List (List UInt8)}
    (h : t.enter l parts = .ok m) :
    m = Location.resolve l parts ∧ t.get? m = some .directory := by
  obtain ⟨found, hfollow, h⟩ := bind_eq_ok_iff.1 h
  obtain ⟨rfl, hdirectory⟩ := directory_eq_ok_iff.1 h
  exact ⟨followAll_eq_ok hfollow, hdirectory⟩

/-- All directories of `t` are directories of `t'`. -/
def DirectoriesStay (t t' : FileTree) : Prop :=
  ∀ l, t.get? l = some .directory → t'.get? l = some .directory

/-- Directories stay in a tree that stays as it is. -/
theorem DirectoriesStay.refl (t : FileTree) : DirectoriesStay t t := fun _ h => h

/-- Directories that stay twice are there in the end. -/
theorem DirectoriesStay.trans {t₁ t₂ t₃ : FileTree} (h : DirectoriesStay t₁ t₂)
    (h' : DirectoriesStay t₂ t₃) : DirectoriesStay t₁ t₃ := fun l hl => h' l (h l hl)

/-- A segment can be followed as long as all directories stay. -/
theorem follow_mono {t t' : FileTree} (hstay : DirectoriesStay t t') {l m : Location}
    {segment : List UInt8} (h : t.follow l segment = .ok m) : t'.follow l segment = .ok m := by
  rw [follow_eq, bind_eq_ok_iff] at h ⊢
  obtain ⟨found, hfound, h⟩ := h
  obtain ⟨rfl, hl⟩ := directory_eq_ok_iff.1 hfound
  exact ⟨_, directory_eq_ok_iff.2 ⟨rfl, hstay _ hl⟩, h⟩

/-- A directory can be entered as long as all directories stay. -/
theorem enter_mono {t t' : FileTree} (hstay : DirectoriesStay t t') {l m : Location}
    {parts : List (List UInt8)} (h : t.enter l parts = .ok m) : t'.enter l parts = .ok m := by
  induction parts generalizing l with
  | nil =>
    obtain ⟨rfl, hl⟩ := directory_eq_ok_iff.1 h
    exact directory_eq_ok_iff.2 ⟨rfl, hstay _ hl⟩
  | cons segment rest ih =>
    rw [enter_cons, bind_eq_ok_iff] at h ⊢
    obtain ⟨next, hnext, h⟩ := h
    exact ⟨next, follow_mono hstay hnext, ih h⟩

/-! ## Reaching a directory by its path -/

/-- The directory that a path leads to; the empty path leads to where one is. -/
def reach (t : FileTree) (here : Location) (p : Path) : Except FileFault Location :=
  if p.octets.contains null then .error .invalidName
  else t.enter (p.origin here) (segments p.octets)

/-- Only the steps of a path matter for what it leads to. -/
theorem enter_steps (t : FileTree) (l : Location) (s : List UInt8) :
    t.enter l (steps s) = t.enter l (segments s) :=
  t.enter_filter l _

/-- Paths with the same start and steps lead to the same directory. -/
theorem reach_congr (t : FileTree) (here : Location) {p q : Path}
    (habsolute : p.isAbsolute = q.isAbsolute) (hsteps : steps p.octets = steps q.octets) :
    t.reach here p = t.reach here q := by
  -- A null octet stands in one of the steps
  have hnull : p.octets.contains null = q.octets.contains null := by
    rw [Bool.eq_iff_iff, List.contains_iff_mem, List.contains_iff_mem,
      Path.mem_iff_mem_steps (by decide) (by decide), hsteps,
      ← Path.mem_iff_mem_steps (by decide) (by decide)]
  simp only [reach, Path.origin, hnull, habsolute, ← enter_steps, hsteps]

/-- A directory is reached at the place that its path names. -/
theorem reach_eq_ok {t : FileTree} {here l : Location} {p : Path} (h : t.reach here p = .ok l) :
    l = p.place here ∧ t.get? l = some .directory := by
  unfold reach at h
  split at h
  · exact nomatch h
  · rw [← enter_steps] at h
    exact enter_eq_ok h

/-- The empty path reaches the directory where one is. -/
theorem reach_of_octets_eq {t : FileTree} {here : Location} {p : Path} (hp : p.octets = [])
    (hhere : t.get? here = some .directory) : t.reach here p = .ok (p.place here) := by
  have habsolute : p.isAbsolute = false := by simp [Path.isAbsolute, hp]
  rw [reach, Path.place, Path.origin, hp, habsolute, ← enter_steps]
  exact directory_eq_ok_iff.2 ⟨rfl, hhere⟩

/-- A directory is reached as long as all directories stay. -/
theorem reach_mono {t t' : FileTree} (hstay : DirectoriesStay t t') {here l : Location} {p : Path}
    (h : t.reach here p = .ok l) : t'.reach here p = .ok l := by
  unfold reach at h ⊢
  split at h
  · exact nomatch h
  · next hnull => rw [if_neg hnull]; exact enter_mono hstay h

/-- A directory that is reached is found, unless its path is empty. -/
theorem find_of_reach {t : FileTree} {here l : Location} {p : Path} (hp : p.octets ≠ [])
    (h : t.reach here p = .ok l) : t.find here p = .ok (l, .directory) := by
  have hl := (reach_eq_ok h).2
  unfold reach at h
  split at h
  · exact nomatch h
  · next hnull =>
    rw [enter, bind_eq_ok_iff] at h
    obtain ⟨found, hwalk, h⟩ := h
    -- To be reached is to be walked to and to be a directory
    obtain ⟨rfl, -⟩ := directory_eq_ok_iff.1 h
    simp only [find, walk, if_neg hp, if_neg hnull, bind_eq_ok_iff]
    exact ⟨_, hwalk, by rw [hl]⟩

/-- What a path leads to is the entry at the location that it leads to. -/
theorem find_eq_ok_iff {t : FileTree} {here l : Location} {p : Path} {e : Entry} :
    t.find here p = .ok (l, e) ↔ t.walk here p = .ok l ∧ t.get? l = some e := by
  rw [find, bind_eq_ok_iff]
  constructor
  · rintro ⟨found, hwalk, h⟩
    split at h
    · next hget =>
      cases h
      exact ⟨hwalk, hget⟩
    · cases h
  · rintro ⟨hwalk, hget⟩
    exact ⟨l, hwalk, by rw [hget]⟩

/-- What is found by a path stands at the place that the path names. -/
theorem find_eq_ok {t : FileTree} {here l : Location} {p : Path} {e : Entry}
    (h : t.find here p = .ok (l, e)) :
    l = p.place here ∧ t.get? l = some e ∧ p.octets.contains null = false ∧
      t.followAll (p.origin here) (segments p.octets) = .ok l := by
  obtain ⟨hwalk, hget⟩ := find_eq_ok_iff.1 h
  unfold walk at hwalk
  split at hwalk
  · exact nomatch hwalk
  split at hwalk
  · exact nomatch hwalk
  · next hnull =>
    refine ⟨?_, hget, by simpa using hnull, hwalk⟩
    -- The walk takes the idle segments too, the place only the others
    rw [followAll_eq_ok hwalk, Path.place, steps, Location.resolve_filter]
    rfl

/-- A directory that is found can be reached. -/
theorem reach_of_find {t : FileTree} {here l : Location} {p : Path}
    (h : t.find here p = .ok (l, .directory)) : t.reach here p = .ok l := by
  obtain ⟨-, hl, hnull, hfollow⟩ := find_eq_ok h
  rw [reach, hnull, if_neg Bool.false_ne_true, enter, hfollow]
  exact directory_eq_ok_iff.2 ⟨rfl, hl⟩

end FileTree

end TweetHarvest
