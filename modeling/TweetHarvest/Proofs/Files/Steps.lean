import TweetHarvest.Files.Path
import TweetHarvest.Proofs.Text.Pieces

/-!
# The steps of a path

Where a path leads depends on two things only: whether it starts at the root, and its segments other
than the empty ones and single dots, its steps.  The operations on the octets of a path are told
here by what they do to the steps.

## Key results

- `Path.steps_join_name`: a name put behind a path adds a step
- `Path.steps_parent`: the parent of a path is without the last step
- `Path.fst_splitFront_joinWith`: what is kept of a path from its start on keeps the front
- `Path.withFileName_eq`: another name is put behind what leads up to the first one
-/

namespace TweetHarvest

namespace Path

/-- The segments that lead somewhere else. -/
def steps (s : List UInt8) : List (List UInt8) := (segments s).filter fun segment => !isIdle segment

/-- Octets that can be the name of an entry. -/
structure IsName (name : List UInt8) : Prop where
  not_idle : isIdle name = false
  not_dots : name ≠ [dot, dot]
  no_slash : slash ∉ name
  no_null : null ∉ name

/-- A name is not empty. -/
theorem IsName.ne_nil {name : List UInt8} (h : IsName name) : name ≠ [] := by
  rintro rfl
  exact nomatch h.not_idle

/-! ## Segments -/

/-- A slash divides the segments. -/
theorem segments_append_slash (a b : List UInt8) :
    segments (a ++ slash :: b) = segments a ++ segments b :=
  Text.splitOn_append_sep a b

/-- A name is a single segment. -/
theorem segments_name {name : List UInt8} (h : IsName name) : segments name = [name] :=
  Text.splitOn_of_not_mem h.no_slash

/-- A slash divides the steps. -/
theorem steps_append_slash (a b : List UInt8) : steps (a ++ slash :: b) = steps a ++ steps b := by
  simp only [steps, segments_append_slash, List.filter_append]

/-- The empty path has no steps. -/
@[simp] theorem steps_nil : steps [] = [] := rfl

/-- A segment stands for nothing if it is empty or a single dot. -/
theorem isIdle_iff {segment : List UInt8} :
    isIdle segment = true ↔ segment = [] ∨ segment = [dot] := by
  simp only [isIdle, Bool.or_eq_true, decide_eq_true_eq]

/-- An octet other than the slash and the dot stands in a path if it stands in a step. -/
theorem mem_iff_mem_steps {s : List UInt8} {c : UInt8} (hslash : c ≠ slash) (hdot : c ≠ dot) :
    c ∈ s ↔ ∃ step ∈ steps s, c ∈ step := by
  rw [Text.mem_splitOn_iff hslash]
  constructor
  · rintro ⟨segment, hsegment, hc⟩
    refine ⟨segment, List.mem_filter.2 ⟨hsegment, ?_⟩, hc⟩
    -- An idle segment is empty or a dot, and neither holds `c`
    by_cases hidle : isIdle segment = true
    · rcases isIdle_iff.1 hidle with rfl | rfl
      · exact absurd hc List.not_mem_nil
      · exact absurd (List.mem_singleton.1 hc) hdot
    · simpa using hidle
  · rintro ⟨step, hstep, hc⟩
    exact ⟨step, (List.mem_filter.1 hstep).1, hc⟩

/-! ## Components of segments -/

/-- Only segments that are empty or a single dot have no meaning. -/
theorem component?_eq_none_iff {segment : List UInt8} :
    component? segment = none ↔ isIdle segment = true := by
  unfold component?
  split
  · next h => simp [h]
  · next h => split <;> simp [h]

/-- Every other segment has one. -/
theorem exists_component? {segment : List UInt8} (h : isIdle segment = false) :
    ∃ c, component? segment = some c := by
  rw [← Option.ne_none_iff_exists', ne_eq, component?_eq_none_iff, h]
  exact Bool.false_ne_true

/-- Segments that stand for nothing are no components. -/
theorem filterMap_filter_isIdle (parts : List (List UInt8)) :
    (parts.filter fun segment => !isIdle segment).filterMap component? =
      parts.filterMap component? := by
  rw [List.filterMap_filter]
  congr 1
  funext segment
  by_cases hidle : isIdle segment = true
  · simp [hidle, component?_eq_none_iff.2 hidle]
  · simp [hidle]

/-! ## The front of a path -/

/-- The front of a path adds no step. -/
theorem steps_splitFront (s : List UInt8) :
    steps s = (segments (splitFront s).2).filter fun segment => !isIdle segment := by
  unfold splitFront
  split <;> rfl

/-- Only the root in front makes a path absolute. -/
theorem head?_eq_slash_iff (s : List UInt8) :
    s.head? = some slash ↔ (splitFront s).1 = some .root := by
  unfold splitFront
  split
  · simp
  · simp
  · simp
  -- No slash in front, as the case of the root has been passed over
  · next hroot _ _ =>
    cases s with
    | nil => simp
    | cons c cs => simpa using fun hc : c = slash => hroot cs (by rw [hc])

/-- The front of a path and what follows it make up the path. -/
theorem frontOctets_append (s : List UInt8) : frontOctets (splitFront s).1 ++ (splitFront s).2 = s := by
  unfold splitFront
  split <;> rfl

/-- The front of a path is told by its first octets. -/
theorem splitFront_append {s t : List UInt8} (hne : s ≠ []) (hdot : s = [dot] → t.head? = some slash) :
    splitFront (s ++ t) = ((splitFront s).1, (splitFront s).2 ++ t) := by
  cases s with
  | nil => exact absurd rfl hne
  | cons c cs =>
    by_cases hroot : c = slash
    · subst hroot
      rfl
    by_cases hcurrent : c = dot
    · subst hcurrent
      cases cs with
      | nil =>
        -- A dot alone is a front, and stays one in front of a slash
        obtain ⟨rest, rfl⟩ : ∃ rest, t = slash :: rest := by
          cases t with
          | nil => exact nomatch hdot rfl
          | cons d rest => exact ⟨rest, by simpa using hdot rfl⟩
        rfl
      | cons d ds =>
        by_cases hd : d = slash
        · subst hd
          rfl
        · simp [splitFront, hd]
    · simp [splitFront, hroot, hcurrent]

/-- A path that starts with a segment that does not stand for nothing has no front. -/
theorem splitFront_joinWith {first : List UInt8} (hslash : slash ∉ first)
    (hidle : isIdle first = false) (rest : List (List UInt8)) :
    splitFront (Text.joinWith slash (first :: rest)) =
      (none, Text.joinWith slash (first :: rest)) := by
  have hne : first ≠ [] := by
    rintro rfl
    exact nomatch hidle
  have hdot : first ≠ [dot] := by
    rintro rfl
    exact nomatch hidle
  have hnone : splitFront first = (none, first) := by
    unfold splitFront
    split
    · simp at hslash
    · exact absurd rfl hdot
    · simp at hslash
    · rfl
  -- What comes behind the segment does not matter
  cases rest with
  | nil => exact hnone
  | cons next others =>
    show splitFront (first ++ slash :: Text.joinWith slash (next :: others)) = _
    rw [splitFront_append hne fun h => absurd h hdot, hnone]
    rfl

/-- A path that is cut at slashes starts with its first segment. -/
theorem segments_cons {c : UInt8} (hc : c ≠ slash) (cs : List UInt8) :
    ∃ piece rest, segments (c :: cs) = (c :: piece) :: rest ∧ segments cs = piece :: rest := by
  simp only [segments, Text.splitOn, if_neg hc]
  cases hcs : Text.splitOn slash cs with
  | nil => exact absurd hcs (Text.splitOn_ne_nil slash cs)
  | cons piece rest => exact ⟨piece, rest, rfl, rfl⟩

/-- A path without a front starts with a segment that does not stand for nothing. -/
theorem isIdle_head_of_splitFront {s first : List UInt8} {rest : List (List UInt8)}
    (hfront : (splitFront s).1 = none) (hne : s ≠ []) (h : segments s = first :: rest) :
    isIdle first = false := by
  cases s with
  | nil => exact absurd rfl hne
  | cons c cs =>
    have hc : c ≠ slash := by
      rintro rfl
      exact nomatch hfront
    obtain ⟨piece, others, hsegments, hcs⟩ := segments_cons hc cs
    obtain ⟨rfl, -⟩ := List.cons.inj (hsegments.symm.trans h)
    apply Bool.eq_false_iff.2
    intro hidle
    -- Only a dot alone would do, and it is followed by nothing or by a slash
    obtain ⟨rfl, rfl⟩ : c = dot ∧ piece = [] := by simpa [isIdle] using hidle
    cases cs with
    | nil => exact nomatch hfront
    | cons d ds =>
      by_cases hd : d = slash
      · subst hd
        exact nomatch hfront
      · obtain ⟨_, _, hds, -⟩ := segments_cons hd ds
        rw [hds] at hcs
        exact nomatch hcs

/-- Segments at the start of a path, put behind its front, have the same front. -/
theorem fst_splitFront_joinWith {s : List UInt8} {kept : List (List UInt8)}
    (h : kept <+: segments (splitFront s).2) :
    (splitFront (frontOctets (splitFront s).1 ++ Text.joinWith slash kept)).1 = (splitFront s).1 := by
  cases hfront : (splitFront s).1 with
  | none =>
    have hbody : (splitFront s).2 = s := by
      have hs := frontOctets_append s
      rwa [hfront] at hs
    rw [hbody] at h
    cases kept with
    | nil => rfl
    | cons first rest =>
      by_cases hs : s = []
      · subst hs
        obtain ⟨rfl, hrest⟩ := List.cons_prefix_cons.1 h
        obtain rfl := List.prefix_nil.1 hrest
        rfl
      · have hslash : slash ∉ first := Text.not_mem_of_mem_splitOn (h.subset (List.mem_cons_self ..))
        obtain ⟨others, hsegments⟩ := h
        have hidle := isIdle_head_of_splitFront hfront hs hsegments.symm
        exact congrArg Prod.fst (splitFront_joinWith hslash hidle rest)
  | some front =>
    unfold splitFront at h hfront
    split at hfront
    -- The root stays in front of whatever follows
    · cases hfront
      rfl
    -- Nothing follows a dot alone
    · cases hfront
      cases kept with
      | nil => rfl
      | cons first rest =>
        obtain ⟨rfl, hrest⟩ := List.cons_prefix_cons.1 h
        rw [List.prefix_nil.1 hrest]
        rfl
    -- The dot stays in front of the empty segment that its slash makes
    · cases hfront
      cases kept with
      | nil => rfl
      | cons first rest =>
        obtain ⟨rfl, -⟩ := List.cons_prefix_cons.1 h
        cases rest <;> rfl
    · cases hfront

/-- Segments put behind the front of a path, which are some of the first in its body. -/
theorem steps_front_joinWith {s : List UInt8} {kept : List (List UInt8)}
    (h : kept <+: segments (splitFront s).2) :
    steps (frontOctets (splitFront s).1 ++ Text.joinWith slash kept) =
      kept.filter fun segment => !isIdle segment := by
  -- Without a front the segments are those that have been joined
  have hjoin : ∀ pieces : List (List UInt8), (∀ piece ∈ pieces, slash ∉ piece) →
      steps (Text.joinWith slash pieces) = pieces.filter fun segment => !isIdle segment := by
    intro pieces hpieces
    cases pieces with
    | nil => rfl
    | cons piece rest =>
      simp only [steps, segments, Text.splitOn_joinWith (List.cons_ne_nil piece rest) hpieces]
  have hkept : ∀ piece ∈ kept, slash ∉ piece := fun piece hpiece =>
    Text.not_mem_of_mem_splitOn (h.subset hpiece)
  -- The root is an empty segment, and the dot in front is followed by one
  unfold splitFront at h ⊢
  split
  · exact hjoin kept hkept
  · cases kept with
    | nil => rfl
    | cons piece rest =>
      obtain ⟨rfl, hrest⟩ := List.cons_prefix_cons.1 h
      obtain rfl := List.prefix_nil.1 hrest
      rfl
  · cases kept with
    | nil => rfl
    | cons piece rest =>
      obtain ⟨rfl, -⟩ := List.cons_prefix_cons.1 h
      cases rest with
      | nil => rfl
      | cons next others =>
        exact hjoin _ fun p hp => hkept p (List.mem_cons_of_mem _ hp)
  · exact hjoin kept hkept

/-- The components of a path: its front, and what its steps stand for. -/
theorem componentsOf_eq (s : List UInt8) :
    componentsOf s = (splitFront s).1.toList ++ (steps s).filterMap component? := by
  rw [steps_splitFront, filterMap_filter_isIdle]
  rfl

/-- Two dots anywhere in a path make it lead up. -/
theorem parent_mem_components_iff (p : Path) :
    Component.parent ∈ p.components ↔ [dot, dot] ∈ segments p.octets := by
  have hfront : Component.parent ∉ (splitFront p.octets).1.toList := by
    unfold splitFront
    split <;> simp
  -- Of the segments two dots alone lead up
  have hsegment : ∀ segment, component? segment = some .parent ↔ segment = [dot, dot] := by
    intro segment
    constructor
    · intro h
      unfold component? at h
      split at h
      · exact nomatch h
      · split at h
        · assumption
        · exact nomatch h
    · rintro rfl
      rfl
  simp only [components, componentsOf_eq, List.mem_append, hfront, false_or, List.mem_filterMap,
    hsegment, exists_eq_right, steps, List.mem_filter]
  exact and_iff_left rfl

/-- A path starts at the root if the root is one of its components. -/
theorem root_mem_components_iff (p : Path) : Component.root ∈ p.components ↔ p.isAbsolute = true := by
  -- No segment stands for the root, so it has to be the front
  have hsegment : ∀ segment, component? segment ≠ some .root := by
    intro segment
    unfold component?
    split
    · simp
    · split <;> simp
  simp only [isAbsolute, decide_eq_true_eq, head?_eq_slash_iff, components, componentsOf_eq,
    List.mem_append, Option.mem_toList, List.mem_filterMap, hsegment, and_false, exists_false,
    or_false]

/-! ## Parents -/

/-- Segments that stand for nothing can be dropped at the end without losing a step. -/
theorem filter_dropIdleEnd (parts : List (List UInt8)) :
    (dropIdleEnd parts).filter (fun segment => !isIdle segment) =
      parts.filter fun segment => !isIdle segment := by
  -- The segments are dropped from the front of the reversed list, so the fact is proved there
  have h : ∀ rest : List (List UInt8), (rest.dropWhile isIdle).filter (fun s => !isIdle s) =
      rest.filter fun s => !isIdle s := by
    intro rest
    induction rest with
    | nil => rfl
    | cons segment rest ih =>
      simp only [List.dropWhile_cons, List.filter_cons]
      split
      · next hidle => simp [hidle, ih]
      · next hidle => simp [hidle]
  rw [dropIdleEnd, List.filter_reverse, h, List.filter_reverse, List.reverse_reverse]

/-- Segments are dropped at the end only. -/
theorem dropIdleEnd_isPrefix (parts : List (List UInt8)) : dropIdleEnd parts <+: parts := by
  have h := List.dropWhile_suffix isIdle (l := parts.reverse)
  rwa [← List.reverse_prefix, List.reverse_reverse] at h

/-- The segments of a path that does have a step, up to the last one. -/
private theorem dropIdleEnd_eq_concat {parts : List (List UInt8)} {last : List UInt8}
    {before : List (List UInt8)} (h : (dropIdleEnd parts).reverse = last :: before) :
    dropIdleEnd parts = before.reverse ++ [last] ∧ isIdle last = false := by
  refine ⟨by rw [← List.reverse_reverse (dropIdleEnd parts), h, List.reverse_cons], ?_⟩
  rw [dropIdleEnd, List.reverse_reverse] at h
  have hhead := List.head?_dropWhile_not isIdle parts.reverse
  rw [h] at hhead
  simpa using hhead

/-- The parent of a path starts where the path does and is without its last step. -/
theorem steps_parent {p q : Path} (h : p.parent? = some q) :
    q.isAbsolute = p.isAbsolute ∧ steps q.octets = (steps p.octets).dropLast := by
  simp only [parent?] at h
  split at h
  · next last before hparts =>
    obtain ⟨hconcat, hlast⟩ := dropIdleEnd_eq_concat hparts
    obtain rfl := Option.some.inj h
    -- What is left after the last step are some of the first segments
    have hbefore : dropIdleEnd before.reverse <+: segments (splitFront p.octets).2 := by
      refine (dropIdleEnd_isPrefix _).trans (List.IsPrefix.trans ?_ (dropIdleEnd_isPrefix _))
      rw [hconcat]
      exact List.prefix_append ..
    -- The front stays in place, so the start of the path does
    constructor
    · simp only [isAbsolute, head?_eq_slash_iff, fst_splitFront_joinWith hbefore]
    · rw [steps_front_joinWith hbefore, steps_splitFront p.octets,
        ← filter_dropIdleEnd (segments _), hconcat, filter_dropIdleEnd]
      simp [hlast]
  · next hparts =>
    split at h
    · next hfront =>
      obtain rfl := Option.some.inj h
      constructor
      -- Only a dot alone has no step and a parent, which is empty
      · have hp : ¬ p.isAbsolute = true := by
          simp only [isAbsolute, decide_eq_true_eq, head?_eq_slash_iff, hfront]
          simp
        simpa [isAbsolute] using hp
      · rw [List.reverse_eq_nil_iff] at hparts
        rw [steps_splitFront p.octets, ← filter_dropIdleEnd, hparts]
        rfl
    · exact nomatch h

/-! ## Names put behind a path -/

/-- A name does not start at the root. -/
theorem isAbsolute_name {name : List UInt8} (h : slash ∉ name) :
    (mk name).isAbsolute = false := by
  cases name with
  | nil => rfl
  | cons c cs => simpa [isAbsolute] using fun hc : c = slash => h (by simp [hc])

/-- The segments of a path with another one behind it. -/
theorem segments_join (dir : Path) {rest : Path} (h : rest.isAbsolute = false) :
    ∃ before, segments (dir.join rest).octets = before ++ segments rest.octets ∧
      before.filter (fun segment => !isIdle segment) = steps dir.octets := by
  simp only [join, h, Bool.false_eq_true, if_false]
  split
  · next hdir =>
    simp only [Bool.or_eq_true, decide_eq_true_eq] at hdir
    -- A slash is put between the two unless there is one already
    rcases hdir with hempty | hslash
    · exact ⟨[], by simp [hempty], by simp [hempty]⟩
    · obtain ⟨front, hfront⟩ := List.getLast?_eq_some_iff.1 hslash
      refine ⟨segments front, ?_, ?_⟩
      · rw [hfront, List.append_assoc]
        exact segments_append_slash front rest.octets
      · rw [hfront, steps_append_slash, steps_nil, List.append_nil]
        rfl
  · exact ⟨segments dir.octets, by rw [segments_append_slash], rfl⟩

/-- The segments of a path with a name behind it. -/
theorem segments_join_name (dir : Path) {name : List UInt8} (h : IsName name) :
    ∃ before, segments (dir.join ⟨name⟩).octets = before ++ [name] ∧
      before.filter (fun segment => !isIdle segment) = steps dir.octets := by
  obtain ⟨before, hsegments, hbefore⟩ := segments_join dir (isAbsolute_name h.no_slash)
  rw [segments_name h] at hsegments
  exact ⟨before, hsegments, hbefore⟩

/-- A name put behind a path adds a step. -/
theorem steps_join_name (dir : Path) {name : List UInt8} (h : IsName name) :
    steps (dir.join ⟨name⟩).octets = steps dir.octets ++ [name] := by
  obtain ⟨before, hsegments, hbefore⟩ := segments_join_name dir h
  simp [steps, hsegments, List.filter_append, hbefore, h.not_idle]

/-- A path put behind another leaves the start of that one. -/
theorem isAbsolute_join (dir : Path) {rest : Path} (h : rest.isAbsolute = false) :
    (dir.join rest).isAbsolute = dir.isAbsolute := by
  simp only [join, h, Bool.false_eq_true, if_false]
  cases hdir : dir.octets with
  | nil =>
    simpa [isAbsolute, hdir] using h
  | cons d ds => split <;> simp [isAbsolute, hdir]

/-- A path with something behind it is not empty. -/
theorem octets_join_ne (dir : Path) {rest : Path} (h : rest.octets ≠ []) :
    (dir.join rest).octets ≠ [] := by
  unfold join
  split
  · exact h
  · split <;> simp [h]

/-- A name put behind a path leaves its start. -/
theorem isAbsolute_join_name (dir : Path) {name : List UInt8} (h : IsName name) :
    (dir.join ⟨name⟩).isAbsolute = dir.isAbsolute :=
  isAbsolute_join dir (isAbsolute_name h.no_slash)

/-- A path ends in the name that is its last segment. -/
theorem fileName?_of_segments {p : Path} {before : List (List UInt8)} {name : List UInt8}
    (hsegments : segments p.octets = before ++ [name]) (h : IsName name) :
    p.fileName? = some name := by
  have hname : component? name = some (.normal name) := by
    simp [component?, h.not_idle, h.not_dots]
  have hlast : p.components.getLast? = some (.normal name) := by
    rw [components, componentsOf_eq, steps, hsegments, List.filter_append, List.filterMap_append]
    simp [h.not_idle, hname]
  simp only [fileName?, hlast]

/-- The name put behind a path is its last component. -/
theorem fileName?_join (dir : Path) {name : List UInt8} (h : IsName name) :
    (dir.join ⟨name⟩).fileName? = some name := by
  obtain ⟨before, hsegments, -⟩ := segments_join_name dir h
  exact fileName?_of_segments hsegments h

/-! ## Names at the end of a path -/

/-- A component that is a name is that of a segment other than dots. -/
theorem component?_eq_normal_iff {segment : List UInt8} {name : List UInt8} :
    component? segment = some (.normal name) ↔
      segment = name ∧ isIdle segment = false ∧ segment ≠ [dot, dot] := by
  unfold component?
  split
  · next h => simp [h]
  · next h =>
    split
    · next hdots => simp [hdots]
    · next hdots =>
      simp [h, hdots]

/-- The name that a path ends in is its last step. -/
theorem steps_of_fileName? {p : Path} {last : List UInt8} (h : p.fileName? = some last) :
    ∃ before, steps p.octets = before ++ [last] ∧ isIdle last = false ∧
      last ≠ [dot, dot] ∧ slash ∉ last := by
  have hlast : p.components.getLast? = some (.normal last) := by
    unfold fileName? at h
    split at h
    · next name hname =>
      cases h
      exact hname
    · exact nomatch h
  rw [components, componentsOf_eq] at hlast
  rcases List.eq_nil_or_concat (steps p.octets) with hnil | ⟨before, step, hconcat⟩
  -- Without steps there is at most the front, which is no name
  · rw [hnil] at hlast
    unfold splitFront at hlast
    split at hlast <;> simp at hlast
  -- With steps the last component is that of the last one
  · have hmem : step ∈ steps p.octets := by simp [hconcat]
    obtain ⟨hsegment, hidle⟩ := List.mem_filter.1 hmem
    obtain ⟨c, hc⟩ := exists_component? (by simpa using hidle)
    have hname : component? step = some (.normal last) := by
      rw [hconcat, List.concat_eq_append, List.filterMap_append] at hlast
      simpa [hc] using hlast
    obtain ⟨rfl, hidle, hdots⟩ := component?_eq_normal_iff.1 hname
    exact ⟨before, by simpa using hconcat, hidle, hdots, Text.not_mem_of_mem_splitOn hsegment⟩

/-- A path with a step has a parent. -/
theorem exists_parent {p : Path} (h : steps p.octets ≠ []) : ∃ q, p.parent? = some q := by
  simp only [parent?]
  split
  · exact ⟨_, rfl⟩
  · next hparts =>
    apply absurd _ h
    rw [List.reverse_eq_nil_iff] at hparts
    rw [steps_splitFront p.octets, ← filter_dropIdleEnd, hparts]
    rfl

/-- Another name at the end of a path is put behind what leads up to the first one. -/
theorem withFileName_eq {p : Path} {last : List UInt8} (h : p.fileName? = some last) :
    ∃ dir : Path, (∀ other, p.withFileName other = dir.join ⟨other⟩) ∧
      dir.isAbsolute = p.isAbsolute ∧ steps p.octets = steps dir.octets ++ [last] := by
  obtain ⟨before, hbefore, -⟩ := steps_of_fileName? h
  obtain ⟨q, hq⟩ := exists_parent (p := p) (by simp [hbefore])
  obtain ⟨habsolute, hsteps⟩ := steps_parent hq
  refine ⟨q, fun other => ?_, habsolute, ?_⟩
  · simp only [withFileName, h, hq, Option.getD_some]
  · rw [hsteps, hbefore, List.dropLast_concat]

/-- Another name at the end of a path is put behind the same steps. -/
theorem withFileName_join (dir : Path) {name : List UInt8} (h : IsName name) (other : List UInt8) :
    ∃ dir' : Path, (dir.join ⟨name⟩).withFileName other =
        dir'.join ⟨other⟩ ∧
      dir'.isAbsolute = dir.isAbsolute ∧ steps dir'.octets = steps dir.octets := by
  obtain ⟨dir', hjoin, habsolute, hsteps⟩ := withFileName_eq (fileName?_join dir h)
  rw [steps_join_name dir h] at hsteps
  exact ⟨dir', hjoin _, habsolute.trans (isAbsolute_join_name dir h),
    (List.append_cancel_right hsteps).symm⟩

end Path

end TweetHarvest
