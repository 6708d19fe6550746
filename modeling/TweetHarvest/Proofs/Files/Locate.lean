import Mathlib.Data.List.TakeWhile
import TweetHarvest.Proofs.Files.Walk

/-!
# Locating new entries

Where an operation puts an entry: in the directory that the path up to its last step leads to, under
the name that this step is.

## Key results

- `FileTree.locate_eq_ok`: an entry is put at the place that its path names
- `FileTree.eq_join_of_locate`: such a path is a name in a directory, unless slashes follow it
- `FileTree.locate_join`, `FileTree.walk_join_name`: a name put behind the path of a directory
- `FileTree.walk_join`: any relative path put behind it
-/

namespace TweetHarvest

namespace FileTree

open TweetHarvest.Path (steps isIdle segments IsName slash dot null)

/-- The last segment that is not empty stands between the others and the empty ones. -/
private theorem segments_eq_splitLast (s : List UInt8) :
    ∃ empties, segments s = (splitLast s).1 ++ (splitLast s).2.1 :: empties ∧
      ∀ segment ∈ empties, segment = [] := by
  simp only [splitLast]
  split
  · next hnone =>
    -- Nothing but slashes: there still is a first segment, which is empty
    have hall : ∀ segment ∈ segments s, segment = [] := by
      intro segment hsegment
      simpa using List.dropWhile_eq_nil_iff.1 hnone segment (List.mem_reverse.2 hsegment)
    cases hs : segments s with
    | nil => exact absurd hs (Text.splitOn_ne_nil slash s)
    | cons first rest =>
      rw [hs] at hall
      refine ⟨rest, ?_, fun p hp => hall p (List.mem_cons_of_mem _ hp)⟩
      rw [hall first (List.mem_cons_self ..)]
      rfl
  · next last before hlast =>
    refine ⟨((segments s).reverse.takeWhile (· = [])).reverse, ?_, ?_⟩
    · have h := congrArg List.reverse
        (List.takeWhile_append_dropWhile (p := (· = [])) (l := (segments s).reverse))
      rw [hlast, List.reverse_reverse, List.reverse_append, List.reverse_cons,
        List.append_assoc] at h
      exact h.symm
    · intro segment hsegment
      simpa using List.mem_takeWhile_imp (List.mem_reverse.1 hsegment)

/-- The steps of a path are those up to its last segment. -/
private theorem steps_splitLast (s : List UInt8) :
    steps s = ((splitLast s).1 ++ [(splitLast s).2.1]).filter fun segment => !isIdle segment := by
  obtain ⟨empties, hsegments, hempties⟩ := segments_eq_splitLast s
  have h : empties.filter (fun segment => !isIdle segment) = [] := by
    rw [List.filter_eq_nil_iff]
    intro segment hsegment
    rw [hempties segment hsegment]
    simp [isIdle]
  rw [steps, hsegments, List.append_cons, List.filter_append, h, List.append_nil]

/-- Locating is entering the directory and following the last segment. -/
theorem locate_eq (t : FileTree) (here : Location) (p : Path) (special : FileFault) :
    t.locate here p special =
      if p.octets = [] then .error .notFound
      else if p.octets.contains null then .error .invalidName
      else do
        let parent ← t.enter (p.origin here) (splitLast p.octets).1
        if isIdle (splitLast p.octets).2.1 || (splitLast p.octets).2.1 = [dot, dot] then
          .error special
        else
          let l ← t.follow parent (splitLast p.octets).2.1
          return (l, (splitLast p.octets).2.2) := by
  unfold locate
  by_cases hempty : p.octets = []
  · rw [if_pos hempty, if_pos hempty]
    rfl
  · by_cases hnull : p.octets.contains null = true
    · rw [if_neg hempty, if_neg hempty, if_pos hnull, if_pos hnull]
      rfl
    · rw [if_neg hempty, if_neg hempty, if_neg hnull, if_neg hnull]
      -- Both sides look for the directory and differ only in when they do
      show (t.followAll (p.origin here) (splitLast p.octets).1 >>= fun parent => _) =
        (t.followAll (p.origin here) (splitLast p.octets).1 >>= t.directory) >>= _
      cases t.followAll (p.origin here) (splitLast p.octets).1 with
      | error fault => rfl
      | ok parent =>
        show _ = t.directory parent >>= _
        unfold directory
        simp only [bind, Except.bind]
        rcases t.get? parent with _ | _ | _ <;> rfl

/-- An entry is put at the place that its path names, in a directory. -/
theorem locate_eq_ok {t : FileTree} {here : Location} {p : Path} {special : FileFault}
    {l : Location} {slashes : Bool} (h : t.locate here p special = .ok (l, slashes)) :
    l = p.place here ∧ l ≠ [] := by
  rw [locate_eq] at h
  split at h
  · exact nomatch h
  split at h
  · exact nomatch h
  obtain ⟨parent, hparent, h⟩ := bind_eq_ok_iff.1 h
  split at h
  · exact nomatch h
  · next hlast =>
    -- The last segment is a step, and the others lead to the directory
    simp only [Bool.or_eq_true, decide_eq_true_eq, not_or, Bool.not_eq_true] at hlast
    obtain ⟨next, hnext, h⟩ := bind_eq_ok_iff.1 h
    obtain ⟨rfl, hget⟩ := enter_eq_ok (t.enter_filter (p.origin here) _ |>.trans hparent)
    simp only [follow, hget, hlast.1, hlast.2, Bool.false_eq_true, if_false] at hnext
    split at hnext
    · exact nomatch hnext
    · cases hnext
      cases h
      refine ⟨?_, by simp⟩
      rw [Path.place, steps_splitLast p.octets, List.filter_append, Location.resolve,
        Location.resolve, List.foldl_append]
      simp [Location.next, hlast.1, hlast.2]

/-- A new entry cannot be located by a path with a null octet. -/
theorem null_notMem_of_locate {t : FileTree} {here : Location} {p : Path} {special : FileFault}
    {found : Location × Bool} (h : t.locate here p special = .ok found) :
    null ∉ p.octets := by
  rw [locate_eq] at h
  split at h
  · exact nomatch h
  split at h
  · exact nomatch h
  · next hnull => simpa using hnull

/-- An entry is located where it was as long as all directories stay. -/
theorem locate_mono {t t' : FileTree} {here : Location} {p : Path} {special : FileFault}
    {found : Location × Bool} (hstay : DirectoriesStay t t')
    (h : t.locate here p special = .ok found) : t'.locate here p special = .ok found := by
  rw [locate_eq] at h ⊢
  split at h
  · exact nomatch h
  next hempty =>
  split at h
  · exact nomatch h
  next hnull =>
  -- The directory is entered, and the last segment followed, in the other tree as well
  rw [if_neg hempty, if_neg hnull, bind_eq_ok_iff]
  obtain ⟨parent, hparent, h⟩ := bind_eq_ok_iff.1 h
  refine ⟨parent, enter_mono hstay hparent, ?_⟩
  split at h
  · exact nomatch h
  next hlast =>
  obtain ⟨l, hfollow, h⟩ := bind_eq_ok_iff.1 h
  rw [if_neg hlast, follow_mono hstay hfollow]
  exact h

/-- Where an entry is located a directory can be reached, once it is there. -/
theorem reach_of_locate {t t' : FileTree} {here l : Location} {p : Path} {special : FileFault}
    {slashes : Bool} (h : t.locate here p special = .ok (l, slashes)) (hstay : DirectoriesStay t t')
    (hl : t'.get? l = some .directory) : t'.reach here p = .ok l := by
  rw [locate_eq] at h
  split at h
  · exact nomatch h
  split at h
  · exact nomatch h
  next hnull =>
  obtain ⟨parent, hparent, h⟩ := bind_eq_ok_iff.1 h
  split at h
  · exact nomatch h
  obtain ⟨found, hfollow, h⟩ := bind_eq_ok_iff.1 h
  obtain ⟨rfl, -⟩ := Prod.mk.inj (Except.ok.inj h)
  -- The steps are those up to the last segment, which leads to the directory
  rw [reach, if_neg hnull, ← enter_steps, steps_splitLast, enter_filter, enter_append,
    bind_eq_ok_iff]
  refine ⟨parent, enter_mono hstay hparent, ?_⟩
  rw [enter_cons, follow_mono hstay hfollow]
  exact directory_eq_ok_iff.2 ⟨rfl, hl⟩

/-! ## Names in a directory -/

/-- A path that does not end with a slash ends with what follows the last one. -/
private theorem exists_last_name {s : List UInt8} (hne : s ≠ []) (hlast : s.getLast? ≠ some slash) :
    ∃ front name, s = front ++ name ∧ (front = [] ∨ front.getLast? = some slash) ∧ name ≠ [] ∧
      slash ∉ name := by
  let name := (s.reverse.takeWhile (· ≠ slash)).reverse
  let front := (s.reverse.dropWhile (· ≠ slash)).reverse
  have hs : s = front ++ name := by
    rw [← List.reverse_append, List.takeWhile_append_dropWhile, List.reverse_reverse]
  have hfront : front = [] ∨ front.getLast? = some slash := by
    have hhead := List.head?_dropWhile_not (fun c => decide (c ≠ slash)) s.reverse
    rw [List.getLast?_reverse, List.reverse_eq_nil_iff]
    cases hrest : s.reverse.dropWhile (fun c => decide (c ≠ slash)) with
    | nil => exact .inl rfl
    | cons c cs =>
      rw [hrest] at hhead
      exact .inr (by simpa using hhead)
  refine ⟨front, name, hs, hfront, fun hname => ?_, fun hmem => ?_⟩
  -- Without a name the path is empty or ends with the slash
  · rw [hname, List.append_nil] at hs
    rcases hfront with hempty | hslash
    · exact hne (hs.trans hempty)
    · exact hlast (hs ▸ hslash)
  · simpa using List.mem_takeWhile_imp (List.mem_reverse.1 hmem)

/-- The name behind the last slash is the last segment. -/
private theorem splitLast_append {front name : List UInt8}
    (hfront : front = [] ∨ front.getLast? = some slash) (hne : name ≠ []) (hslash : slash ∉ name) :
    (splitLast (front ++ name)).2.1 = name := by
  have hname : segments name = [name] := Text.splitOn_of_not_mem hslash
  obtain ⟨before, hsegments⟩ : ∃ before, segments (front ++ name) = before ++ [name] := by
    -- The name alone, or behind a slash that ends what stands in front
    rcases hfront with rfl | hfront
    · exact ⟨[], hname⟩
    · obtain ⟨start, rfl⟩ := List.getLast?_eq_some_iff.1 hfront
      refine ⟨segments start, ?_⟩
      rw [List.append_assoc, ← hname]
      exact Path.segments_append_slash start name
  simp only [splitLast, hsegments, List.reverse_append, List.reverse_singleton,
    List.singleton_append, List.dropWhile_cons, hne, decide_false, Bool.false_eq_true, if_false]

/-- A path that an entry can be put at, without a slash behind it, is a name in a directory. -/
theorem eq_join_of_locate {t : FileTree} {here l : Location} {p : Path} {special : FileFault}
    (h : t.locate here p special = .ok (l, false)) :
    ∃ (dir : Path) (name : List UInt8), IsName name ∧ p = dir.join ⟨name⟩ := by
  rw [locate_eq] at h
  split at h
  · cases h
  next hempty =>
  split at h
  · cases h
  next hnull =>
  obtain ⟨parent, -, h⟩ := bind_eq_ok_iff.1 h
  split at h
  · cases h
  next hlast =>
  obtain ⟨found, -, h⟩ := bind_eq_ok_iff.1 h
  have hflag : (splitLast p.octets).2.2 = false := congrArg Prod.snd (Except.ok.inj h)
  -- No slash stands at the end, so a name does
  have hslash : p.octets.getLast? ≠ some slash := by
    unfold splitLast at hflag
    split at hflag
    · cases hflag
    · simpa using hflag
  obtain ⟨front, name, hoctets, hfront, hname, hno⟩ := exists_last_name hempty hslash
  have hsplit := splitLast_append hfront hname hno
  simp only [hoctets, hsplit, Bool.or_eq_true, decide_eq_true_eq, not_or, Bool.not_eq_true] at hlast
  have hisName : IsName name := by
    refine ⟨hlast.1, hlast.2, hno, fun hmem => hnull ?_⟩
    rw [List.contains_iff_mem, hoctets]
    exact List.mem_append_right front hmem
  refine ⟨⟨front⟩, name, hisName, ?_⟩
  -- No slash is put between the two, since there is one already or nothing comes before
  rw [Path.join, Path.isAbsolute_name hno, if_neg Bool.false_ne_true, if_pos (by simpa using hfront)]
  exact congrArg Path.mk hoctets

/-- The location of a name in the directory that a path leads to. -/
def spot (t : FileTree) (here : Location) (dir : Path) (name : List UInt8) :
    Except FileFault Location := do
  let l ← t.reach here dir
  if maxNameOctets < name.length then .error .nameTooLong else .ok (l ++ [name])

/-- A name leads one level down from a directory, unless it is too long. -/
theorem follow_name {t : FileTree} {l : Location} {name : List UInt8} (h : IsName name) :
    t.follow l name = (do
      let m ← t.directory l
      if maxNameOctets < name.length then .error .nameTooLong
      else .ok (m ++ [name])) := by
  rw [follow_eq]
  simp only [h.not_idle, h.not_dots, ne_eq, not_false_eq_true, true_and, Location.next,
    Bool.false_eq_true, if_false]

/-- A null octet in a path is one in either of its parts. -/
theorem contains_null_join (dir : Path) {rest : Path} (h : rest.isAbsolute = false) :
    (dir.join rest).octets.contains null =
      (dir.octets.contains null || rest.octets.contains null) := by
  simp only [Path.join, h, Bool.false_eq_true, if_false]
  split <;> simp

/-- A new entry in a directory that a path leads to. -/
theorem locate_join (t : FileTree) (here : Location) (dir : Path) {name : List UInt8}
    (h : IsName name) (special : FileFault) :
    t.locate here (dir.join ⟨name⟩) special =
      (t.spot here dir name).map fun l => (l, false) := by
  obtain ⟨before, hsegments, hbefore⟩ := Path.segments_join_name dir h
  have hnull : (dir.join ⟨name⟩).octets.contains null = dir.octets.contains null := by
    rw [contains_null_join dir (Path.isAbsolute_name h.no_slash)]
    simp [h.no_null]
  -- The name is the last segment, and no slash follows it
  have hsplit : splitLast (dir.join ⟨name⟩).octets = (before, name, false) := by
    have hslash : (dir.join ⟨name⟩).octets.getLast? ≠ some slash := by
      intro hlast
      obtain ⟨front, hfront⟩ := List.getLast?_eq_some_iff.1 hlast
      rw [hfront, Path.segments_append_slash] at hsegments
      have := (List.append_inj' hsegments rfl).2
      exact h.ne_nil (List.singleton_inj.1 this).symm
    simp only [splitLast, hsegments, List.reverse_append, List.reverse_singleton,
      List.singleton_append, List.dropWhile_cons, h.ne_nil, hslash, decide_false,
      Bool.false_eq_true, if_false, List.reverse_reverse]
  rw [locate_eq, if_neg (Path.octets_join_ne dir h.ne_nil), hnull, hsplit]
  -- Both sides enter the directory and follow the name from there
  simp only [spot, reach, Path.origin, Path.isAbsolute_join_name dir h]
  by_cases hdir : dir.octets.contains null = true
  · rw [if_pos hdir, if_pos hdir]
    rfl
  · rw [if_neg hdir, if_neg hdir, ← enter_steps, ← hbefore, enter_filter]
    cases hparent : t.enter (if dir.isAbsolute = true then [] else here) before with
    | error fault => rfl
    | ok parent =>
      have hdirectory : t.directory parent = .ok parent :=
        directory_eq_ok_iff.2 ⟨rfl, (enter_eq_ok hparent).2⟩
      simp only [bind, Except.bind, h.not_idle, h.not_dots, decide_false, Bool.or_self,
        Bool.false_eq_true, if_false, follow_name h, hdirectory]
      by_cases hlong : maxNameOctets < name.length
      · rw [if_pos hlong]
        rfl
      · rw [if_neg hlong]
        rfl

/-- Where a name in a directory is located it is found. -/
theorem spot_of_locate {t : FileTree} {here l : Location} {dir : Path} {name : List UInt8}
    {special : FileFault} (h : IsName name)
    (hlocate : t.locate here (dir.join ⟨name⟩) special = .ok (l, false)) :
    t.spot here dir name = .ok l := by
  rw [locate_join t here dir h, map_eq_ok_iff] at hlocate
  obtain ⟨found, hspot, hfound⟩ := hlocate
  rwa [(Prod.mk.inj hfound).1] at hspot

/-- A path put behind that of a directory is followed from this directory. -/
theorem walk_join (t : FileTree) (here : Location) (dir : Path) {rest : Path}
    (h : rest.isAbsolute = false) (hne : rest.octets ≠ []) :
    t.walk here (dir.join rest) =
      if rest.octets.contains null then .error .invalidName
      else (do t.followAll (← t.reach here dir) (segments rest.octets)) := by
  obtain ⟨before, hsegments, hbefore⟩ := Path.segments_join dir h
  have hrest : segments rest.octets ≠ [] := Text.splitOn_ne_nil slash rest.octets
  -- What follows is followed from a directory, since it has a segment
  rw [walk, if_neg (Path.octets_join_ne dir hne), contains_null_join dir h, hsegments,
    followAll_append _ _ _ hrest, ← enter_filter, hbefore, enter_steps,
    Path.isAbsolute_join dir h, reach]
  by_cases hdir : dir.octets.contains null = true
  · simp only [hdir, Bool.true_or, if_true]
    split <;> rfl
  · simp only [hdir, Bool.false_or, Bool.false_eq_true, if_false]
    rfl

/-- An entry in a directory that a path leads to. -/
theorem walk_join_name (t : FileTree) (here : Location) (dir : Path) {name : List UInt8}
    (h : IsName name) : t.walk here (dir.join ⟨name⟩) = t.spot here dir name := by
  rw [walk_join t here dir (Path.isAbsolute_name h.no_slash) h.ne_nil, Path.segments_name h, spot]
  have hnull : name.contains null = false := by simpa using h.no_null
  rw [hnull, if_neg Bool.false_ne_true]
  -- An error of the directory comes first on both sides; behind it only the length of the name
  -- counts
  cases hreach : t.reach here dir with
  | error fault => rfl
  | ok l =>
    have hdirectory : t.directory l = .ok l :=
      directory_eq_ok_iff.2 ⟨rfl, (reach_eq_ok hreach).2⟩
    simp only [bind, Except.bind, followAll, follow_name h, hdirectory]
    by_cases hlong : maxNameOctets < name.length
    · rw [if_pos hlong]
    · rw [if_neg hlong]

/-- Another name at the end of a path stands in the same directory. -/
theorem spot_withFileName (dir : Path) {name : List UInt8} (h : IsName name) (other : List UInt8) :
    ∃ dir' : Path, (dir.join ⟨name⟩).withFileName other = dir'.join ⟨other⟩ ∧
      ∀ t here, spot t here dir' other = spot t here dir other := by
  obtain ⟨dir', hpath, habsolute, hsteps⟩ := Path.withFileName_join dir h other
  refine ⟨dir', hpath, fun t here => ?_⟩
  simp only [spot, t.reach_congr here habsolute hsteps]

end FileTree

end TweetHarvest
