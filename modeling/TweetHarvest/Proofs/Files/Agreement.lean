import Mathlib.Data.List.Nodup
import TweetHarvest.Proofs.Files.Locate

/-!
# Trees that agree below a path

Two trees may differ anywhere and still look the same to whoever never leaves a directory.  Here
they agree on a path: it leads somewhere in both of them or in neither, and the entries at its place
and below are the same.  Segments without two dots never lead out of a directory, so a relative path
put behind the other finds the same entries in both trees, whatever they hold elsewhere.

## Key results

- `FileTree.followAll_congr`: segments without two dots stay below a location
- `FileTree.AgreeOn.find_join_iff`: what is found below the path
- `FileTree.AgreeOn.names_perm`: what is listed there
-/

namespace TweetHarvest

namespace FileTree

open TweetHarvest.Path (segments dot)

/-! ## Trees without duplicates -/

/-- No location has more than one entry, as in every file system. -/
def Distinct (t : FileTree) : Prop := (t.entries.map (·.1)).Nodup

/-- The empty tree has no location twice. -/
theorem distinct_empty : Distinct empty := List.nodup_nil

/-- No location comes to be there twice by erasing one. -/
theorem Distinct.erase {t : FileTree} (h : t.Distinct) (l : Location) : (t.erase l).Distinct :=
  List.Nodup.sublist (List.filter_sublist.map _) h

/-- A location at which something is put is there once, since what was there is erased. -/
theorem Distinct.put {t : FileTree} (h : t.Distinct) (l : Location) (e : Entry) :
    (t.put l e).Distinct := by
  refine List.nodup_cons.2 ⟨?_, h.erase l⟩
  simp [FileTree.erase]

/-! ## Staying below a location -/

/-- A segment other than two dots stays at the location or goes down from it. -/
theorem prefix_of_follow {t : FileTree} {l m : Location} {segment : List UInt8}
    (hsegment : segment ≠ [dot, dot]) (h : t.follow l segment = .ok m) : l <+: m := by
  rw [follow_eq, bind_eq_ok_iff] at h
  obtain ⟨found, hfound, h⟩ := h
  obtain ⟨rfl, -⟩ := directory_eq_ok_iff.1 hfound
  split at h
  · cases h
  · cases h
    exact Location.isPrefix_next _ hsegment

/-- Segments without two dots stay below a location, and lead to the same place in trees that are
the same there. -/
theorem followAll_congr {t t' : FileTree} {base : Location}
    (hsame : ∀ m, base <+: m → t'.get? m = t.get? m) {parts : List (List UInt8)}
    (hparts : [dot, dot] ∉ parts) {l : Location} (hl : base <+: l) :
    t'.followAll l parts = t.followAll l parts ∧
      ∀ m, t.followAll l parts = .ok m → base <+: m := by
  induction parts generalizing l with
  | nil =>
    refine ⟨rfl, ?_⟩
    rintro m ⟨⟩
    exact hl
  | cons segment rest ih =>
    obtain ⟨hdots, hrest⟩ := not_or.1 (mt List.mem_cons.2 hparts)
    -- The location is below the base, so both trees have the same there
    have hdirectory : t'.directory l = t.directory l := by simp only [directory, hsame l hl]
    have hfollow : t'.follow l segment = t.follow l segment := by
      rw [follow_eq, follow_eq, hdirectory]
    rw [followAll, followAll, hfollow]
    cases hnext : t.follow l segment with
    | error fault =>
      refine ⟨rfl, ?_⟩
      rintro m ⟨⟩
    | ok next => exact ih hrest (hl.trans (prefix_of_follow (Ne.symm hdots) hnext))

/-! ## Agreement -/

/-- A path leads to an entry. -/
def IsThere (t : FileTree) (here : Location) (p : Path) : Prop := ∃ found, t.find here p = .ok found

/-- The trees agree on a path and all that is below it: the path leads somewhere in both of them or
in neither, and then the entries at its place and below are the same. -/
structure AgreeOn (here : Location) (p : Path) (t t' : FileTree) : Prop where
  isThere_iff : t.IsThere here p ↔ t'.IsThere here p
  same : t.IsThere here p → ∀ l, p.place here <+: l → t'.get? l = t.get? l

namespace AgreeOn

variable {here : Location} {p : Path} {t t' : FileTree}

/-- Agreement goes both ways. -/
theorem symm (h : AgreeOn here p t t') : AgreeOn here p t' t where
  isThere_iff := h.isThere_iff.symm
  same hthere l hl := (h.same (h.isThere_iff.2 hthere) l hl).symm

/-- A path leads to the same entry in both trees. -/
theorem find_eq_ok (h : AgreeOn here p t t') {found : Location × Entry}
    (hfound : t.find here p = .ok found) : t'.find here p = .ok found := by
  obtain ⟨l, e⟩ := found
  obtain ⟨⟨l', e'⟩, hfound'⟩ := h.isThere_iff.1 ⟨_, hfound⟩
  -- Both are found at the place that the path names
  obtain ⟨rfl, he, -⟩ := FileTree.find_eq_ok hfound
  obtain ⟨rfl, he', -⟩ := FileTree.find_eq_ok hfound'
  rw [h.same ⟨_, hfound⟩ _ (List.prefix_refl _), he] at he'
  cases he'
  exact hfound'

/-- A relative path without two dots, put behind the path, finds an entry of one tree in the
other. -/
private theorem find_join (h : AgreeOn here p t t') (hp : p.octets ≠ []) {rest : Path}
    (hrelative : rest.isAbsolute = false) (hne : rest.octets ≠ [])
    (hdots : [dot, dot] ∉ segments rest.octets) {found : Location × Entry}
    (hfound : t.find here (p.join rest) = .ok found) :
    t'.find here (p.join rest) = .ok found := by
  obtain ⟨l, e⟩ := found
  obtain ⟨hwalk, hget⟩ := find_eq_ok_iff.1 hfound
  rw [walk_join t here p hrelative hne] at hwalk
  split at hwalk
  · cases hwalk
  · next hnull =>
    obtain ⟨base, hreach, hfollow⟩ := bind_eq_ok_iff.1 hwalk
    -- The directory that the path leads to is the same, and the rest stays in it
    have hthere := find_of_reach hp hreach
    obtain ⟨rfl, -⟩ := reach_eq_ok hreach
    obtain ⟨hsame, hbelow⟩ := followAll_congr (h.same ⟨_, hthere⟩) hdots (List.prefix_refl _)
    refine find_eq_ok_iff.2 ⟨?_, (h.same ⟨_, hthere⟩ l (hbelow l hfollow)).trans hget⟩
    rw [walk_join t' here p hrelative hne, if_neg hnull, bind_eq_ok_iff]
    exact ⟨_, reach_of_find (h.find_eq_ok hthere), hsame.trans hfollow⟩

/-- A relative path without two dots, put behind the path, finds the same entries in both trees. -/
theorem find_join_iff (h : AgreeOn here p t t') (hp : p.octets ≠ []) {rest : Path}
    (hrelative : rest.isAbsolute = false) (hne : rest.octets ≠ [])
    (hdots : [dot, dot] ∉ segments rest.octets) (found : Location × Entry) :
    t.find here (p.join rest) = .ok found ↔ t'.find here (p.join rest) = .ok found :=
  ⟨h.find_join hp hrelative hne hdots, h.symm.find_join hp hrelative hne hdots⟩

end AgreeOn

/-! ## Listing a directory -/

/-- The name of an entry in a directory. -/
def nameIn? (dir l : Location) : Option (List UInt8) := if l.dropLast = dir then l.getLast? else none

/-- A location has a name in the directory right above it, and in no other. -/
theorem nameIn?_eq_some_iff {dir l : Location} {name : List UInt8} :
    nameIn? dir l = some name ↔ l = dir ++ [name] := by
  unfold nameIn?
  constructor
  · intro h
    split at h
    · next hdir =>
      obtain ⟨front, rfl⟩ := List.getLast?_eq_some_iff.1 h
      rw [← hdir, List.dropLast_concat]
    · exact nomatch h
  · rintro rfl
    simp

/-- The names in a directory. -/
def namesIn (t : FileTree) (dir : Location) : List (List UInt8) :=
  t.entries.filterMap fun entry => nameIn? dir entry.1

/-- The names in a directory are those of the locations right below it. -/
theorem mem_namesIn {t : FileTree} {dir : Location} {name : List UInt8} :
    name ∈ t.namesIn dir ↔ (t.get? (dir ++ [name])).isSome = true := by
  have hne : dir ++ [name] ≠ [] := by simp
  simp only [namesIn, List.mem_filterMap, nameIn?_eq_some_iff, get?, if_neg hne, Option.isSome_map,
    List.find?_isSome, decide_eq_true_eq]

/-- Every name is listed once. -/
theorem Distinct.nodup_namesIn {t : FileTree} (h : t.Distinct) (dir : Location) :
    (t.namesIn dir).Nodup := by
  have hnames : t.namesIn dir = (t.entries.map (·.1)).filterMap (nameIn? dir) := by
    rw [List.filterMap_map]
    rfl
  rw [hnames]
  refine List.Nodup.filterMap (fun l l' name hl hl' => ?_) h
  rw [nameIn?_eq_some_iff.1 hl, nameIn?_eq_some_iff.1 hl']

/-- The names in a directory are looked up where its path leads. -/
theorem names_eq (t : FileTree) (here : Location) (p : Path) :
    t.names here p = (do
      match ← t.find here p with
      | (_, .file _) => .error .notADirectory
      | (l, .directory) => return t.namesIn l) := rfl

/-- The same names are listed in both trees, if they can be listed. -/
theorem AgreeOn.names_perm {here : Location} {p : Path} {t t' : FileTree}
    (h : AgreeOn here p t t') (ht : t.Distinct) (ht' : t'.Distinct) {names : List (List UInt8)}
    (hnames : t.names here p = .ok names) :
    ∃ names', t'.names here p = .ok names' ∧ names.Perm names' := by
  rw [names_eq, bind_eq_ok_iff] at hnames
  obtain ⟨⟨l, e⟩, hfound, hnames⟩ := hnames
  cases e with
  | file content => exact nomatch hnames
  | directory =>
    cases hnames
    obtain ⟨hl, -⟩ := FileTree.find_eq_ok hfound
    refine ⟨t'.namesIn l, by rw [names_eq, h.find_eq_ok hfound]; rfl, ?_⟩
    -- A tree lists its entries in no order of its own, so the names are compared one by one
    rw [List.perm_ext_iff_of_nodup (ht.nodup_namesIn l) (ht'.nodup_namesIn l)]
    intro name
    rw [mem_namesIn, mem_namesIn, h.same ⟨_, hfound⟩ _ (hl ▸ List.prefix_append ..)]

end FileTree

end TweetHarvest
