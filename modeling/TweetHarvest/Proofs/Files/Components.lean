import TweetHarvest.Proofs.Files.Agreement

/-!
# The components of paths

What the operations on the octets of a path do to its components: a relative path put behind another
adds its own, and what is left of a path behind another is told by the components alone, whatever
slashes and dots stand between them.

## Key results

- `Path.components_join`, `Path.components_join_name`: what is put behind a path
- `Path.within?_eq_some`, `Path.within?_eq_none_iff`: what is left of a path behind another
- `Path.not_isPrefix_components_of_append`: a longer last name leads elsewhere
- `Path.place_isPrefix_place_join`: what stays below a path
-/

namespace TweetHarvest

/-- Whether a component is a name. -/
def Component.isNormal : Component → Bool
  | .normal _ => true
  | _ => false

namespace Path

/-! ## Segments and components -/

/-- Without two dots the segments of a path are its components that are names. -/
theorem filter_isNormal_components {p : Path} (h : .parent ∉ p.components) :
    p.components.filter Component.isNormal = (segments p.octets).filterMap component? := by
  have hfront : (splitFront p.octets).1.toList.filter Component.isNormal = [] := by
    unfold splitFront
    split <;> rfl
  rw [components, componentsOf_eq, steps, filterMap_filter_isIdle, List.mem_append, not_or] at h
  rw [components, componentsOf_eq, steps, filterMap_filter_isIdle, List.filter_append, hfront,
    List.nil_append, List.filter_eq_self]
  intro c hc
  obtain ⟨segment, -, hsegment⟩ := List.mem_filterMap.1 hc
  -- A segment is the parent or a name
  unfold component? at hsegment
  split at hsegment
  · cases hsegment
  · split at hsegment
    · obtain rfl := Option.some.inj hsegment
      exact absurd hc h.2
    · obtain rfl := Option.some.inj hsegment
      rfl

/-- Different segments stand for different components, unless they stand for nothing. -/
theorem component?_inj {segment other : List UInt8} (h : isIdle segment = false)
    (h' : isIdle other = false) (heq : component? segment = component? other) : segment = other := by
  simp only [component?, h, h', Bool.false_eq_true, if_false] at heq
  by_cases hdots : segment = [dot, dot] <;> by_cases hdots' : other = [dot, dot]
  · rw [hdots, hdots']
  · simp [hdots, hdots'] at heq
  · simp [hdots, hdots'] at heq
  · simpa [hdots, hdots'] using heq

/-- Segments that stand for nothing can be dropped at the end without losing a component. -/
theorem filterMap_dropIdleEnd (parts : List (List UInt8)) :
    (dropIdleEnd parts).filterMap component? = parts.filterMap component? := by
  rw [← filterMap_filter_isIdle, filter_dropIdleEnd, filterMap_filter_isIdle]

/-- Segments that stand for nothing can be dropped in front without losing a component. -/
theorem filterMap_dropWhile_isIdle (parts : List (List UInt8)) :
    (parts.dropWhile isIdle).filterMap component? = parts.filterMap component? := by
  induction parts with
  | nil => rfl
  | cons segment rest ih =>
    by_cases hidle : isIdle segment = true
    · rw [List.dropWhile_cons_of_pos hidle, ih,
        List.filterMap_cons_none (component?_eq_none_iff.2 hidle)]
    · rw [List.dropWhile_cons_of_neg hidle]

/-- Segments that start with one that does not stand for nothing are joined to a path without a
front. -/
theorem componentsOf_joinWith {parts : List (List UInt8)} (hslash : ∀ part ∈ parts, slash ∉ part)
    (hhead : ∀ first ∈ parts.head?, isIdle first = false) :
    componentsOf (Text.joinWith slash parts) = parts.filterMap component? := by
  cases parts with
  | nil => rfl
  | cons first rest =>
    have hfront := splitFront_joinWith (hslash first (List.mem_cons_self ..)) (hhead first rfl) rest
    simp only [componentsOf, hfront, segments,
      Text.splitOn_joinWith (List.cons_ne_nil first rest) hslash]
    rfl

/-- The segments at the end of a path that stand for nothing can be left out. -/
theorem componentsOf_trimEnd (s : List UInt8) : componentsOf (trimEnd s) = componentsOf s := by
  have hkept := dropIdleEnd_isPrefix (segments (splitFront s).2)
  have htrim : trimEnd s = frontOctets (splitFront s).1 ++
    Text.joinWith slash (dropIdleEnd (segments (splitFront s).2)) := rfl
  rw [componentsOf_eq, htrim, fst_splitFront_joinWith hkept, steps_front_joinWith hkept,
    filterMap_filter_isIdle, filterMap_dropIdleEnd]
  rfl

/-- Octets are trimmed at the end only. -/
theorem trimEnd_isPrefix (s : List UInt8) : trimEnd s <+: s := by
  have hkept : Text.joinWith slash (dropIdleEnd (segments (splitFront s).2)) <+:
      Text.joinWith slash (segments (splitFront s).2) :=
    Text.joinWith_isPrefix (dropIdleEnd_isPrefix _)
  have hbody : Text.joinWith slash (segments (splitFront s).2) = (splitFront s).2 :=
    Text.joinWith_splitOn slash _
  rw [hbody] at hkept
  have h := (List.prefix_append_right_inj (frontOctets (splitFront s).1)).2 hkept
  rwa [frontOctets_append] at h

/-! ## Paths behind one another -/

/-- The empty path has no components. -/
theorem components_of_octets_eq {p : Path} (h : p.octets = []) : p.components = [] := by
  rw [components, h]
  rfl

/-- Nothing is put between an empty path and another. -/
theorem join_of_octets_eq {base : Path} (h : base.octets = []) (rest : Path) :
    base.join rest = rest := by
  unfold join
  split
  · rfl
  · simp [h]

/-- A relative path put behind another adds the components of its segments. -/
theorem components_join {base rest : Path} (hbase : base.octets ≠ [])
    (h : rest.isAbsolute = false) :
    (base.join rest).components = base.components ++ (segments rest.octets).filterMap component? := by
  -- The front is that of the first path, which a dot alone keeps in front of the slash
  have hfront : (splitFront (base.join rest).octets).1 = (splitFront base.octets).1 := by
    simp only [join, h, Bool.false_eq_true, if_false]
    split
    · next hslash =>
      rw [splitFront_append hbase]
      intro hdot
      simp [hdot] at hslash
    · rw [splitFront_append hbase fun _ => rfl]
  obtain ⟨before, hsegments, hbefore⟩ := segments_join base h
  rw [components, components, componentsOf_eq, componentsOf_eq, hfront, ← hbefore, steps, hsegments,
    filterMap_filter_isIdle, filterMap_filter_isIdle, List.filterMap_append, List.append_assoc]

/-- A name is a path of one component. -/
theorem components_name {name : List UInt8} (h : IsName name) :
    (mk name).components = [.normal name] := by
  have hcomponent : component? name = some (.normal name) := by
    simp [component?, h.not_idle, h.not_dots]
  have hsplit : componentsOf (Text.joinWith slash [name]) = [name].filterMap component? :=
    componentsOf_joinWith (by simp [h.no_slash]) (by simp [h.not_idle])
  exact hsplit.trans (by simp [hcomponent])

/-- A name put behind a path adds itself to the components. -/
theorem components_join_name (dir : Path) {name : List UInt8} (h : IsName name) :
    (dir.join ⟨name⟩).components = dir.components ++ [.normal name] := by
  have hname := components_name h
  by_cases hdir : dir.octets = []
  · rw [join_of_octets_eq hdir, hname, components_of_octets_eq hdir, List.nil_append]
  · have hcomponent : component? name = some (.normal name) :=
      component?_eq_normal_iff.2 ⟨rfl, h.not_idle, h.not_dots⟩
    rw [components_join hdir (isAbsolute_name h.no_slash), segments_name h]
    simp [hcomponent]

/-- Paths behind one another lead from one place to the next. -/
theorem place_join (here : Location) (base : Path) {rest : Path} (h : rest.isAbsolute = false) :
    (base.join rest).place here = Location.resolve (base.place here) (segments rest.octets) := by
  obtain ⟨before, hsegments, hbefore⟩ := segments_join base h
  rw [place, steps, hsegments, origin, isAbsolute_join base h, List.filter_append, hbefore,
    Location.resolve, List.foldl_append]
  exact Location.resolve_filter _ _

/-- A relative path without two dots stays below the path that it is put behind. -/
theorem place_isPrefix_place_join (here : Location) (base : Path) {rest : Path}
    (h : rest.isAbsolute = false) (hdots : [dot, dot] ∉ segments rest.octets) :
    base.place here <+: (base.join rest).place here := by
  rw [place_join here base h]
  exact Location.isPrefix_resolve _ hdots

/-! ## What is left behind the components of a path -/

/-- The components that are taken off stand in front of what is left, which is the end of the
segments. -/
theorem dropComponents_eq_some {cs : List Component} {parts left : List (List UInt8)}
    (h : dropComponents cs parts = some left) :
    parts.filterMap component? = cs ++ left.filterMap component? ∧ left <:+ parts := by
  -- A segment that stands for nothing is passed over, and any other is the next component
  fun_induction dropComponents cs parts with
  | case1 parts =>
    cases h
    exact ⟨rfl, List.suffix_refl _⟩
  | case2 => exact nomatch h
  | case3 c cs segment rest hnone ih =>
    obtain ⟨hcomponents, hleft⟩ := ih h
    rw [List.filterMap_cons_none hnone]
    exact ⟨hcomponents, hleft.trans (List.suffix_cons _ _)⟩
  | case4 cs segment rest found hfound ih =>
    obtain ⟨hcomponents, hleft⟩ := ih h
    rw [List.filterMap_cons_some hfound, hcomponents]
    exact ⟨rfl, hleft.trans (List.suffix_cons _ _)⟩
  | case5 => exact nomatch h

/-- Components that cannot be taken off do not stand in front. -/
theorem not_isPrefix_of_dropComponents {cs : List Component} {parts : List (List UInt8)}
    (h : dropComponents cs parts = none) : ¬ cs <+: parts.filterMap component? := by
  fun_induction dropComponents cs parts with
  | case1 => exact nomatch h
  | case2 => simp
  -- An idle segment has no component to compare
  | case3 c cs segment rest hnone ih =>
    rw [List.filterMap_cons_none hnone]
    exact ih h
  | case4 cs segment rest found hfound ih =>
    rw [List.filterMap_cons_some hfound, List.cons_prefix_cons]
    exact fun hprefix => ih h hprefix.2
  | case5 c cs segment rest found hfound hne =>
    rw [List.filterMap_cons_some hfound, List.cons_prefix_cons]
    exact fun hprefix => hne hprefix.1.symm

/-- The last segments of a path make up a path without a front, after those that stand for
nothing. -/
private theorem componentsOf_left {body : List UInt8} {left : List (List UInt8)}
    (h : left <:+ segments body) :
    componentsOf (Text.joinWith slash (dropIdleEnd (left.dropWhile isIdle))) =
        left.filterMap component? ∧
      Text.joinWith slash (dropIdleEnd (left.dropWhile isIdle)) <:+: body := by
  have hkept := dropIdleEnd_isPrefix (left.dropWhile isIdle)
  have hleft : left.dropWhile isIdle <:+ segments body := (List.dropWhile_suffix isIdle).trans h
  constructor
  -- The segments that are kept begin with one that stands for something
  · rw [componentsOf_joinWith, filterMap_dropIdleEnd, filterMap_dropWhile_isIdle]
    · intro part hpart
      exact Text.not_mem_of_mem_splitOn (hleft.subset (hkept.subset hpart))
    · intro first hfirst
      obtain ⟨back, hback⟩ := hkept
      have hhead := List.head?_dropWhile_not isIdle left
      rw [← hback, List.head?_append, Option.mem_def.1 hfirst] at hhead
      simpa using hhead
  · have hbody : Text.joinWith slash (segments body) = body := Text.joinWith_splitOn slash body
    rw [← hbody]
    exact (Text.joinWith_isPrefix hkept).isInfix.trans (Text.joinWith_isSuffix hleft).isInfix

/-- What is left of a path behind another that has components is told by its last segments. -/
private theorem exists_left (p : Path) {base : Path} (hbase : base.components ≠ []) :
    ∃ left? : Option (List (List UInt8)),
      p.within? base = left?.map (fun left =>
        ⟨Text.joinWith slash (dropIdleEnd (left.dropWhile isIdle))⟩) ∧
      (∀ left, left? = some left → left <:+ segments (splitFront p.octets).2 ∧
        p.components = base.components ++ left.filterMap component?) ∧
      (left? = none → ¬ base.components <+: p.components) := by
  obtain ⟨d, ds, hcs⟩ := List.exists_cons_of_ne_nil hbase
  have hp : p.components = (splitFront p.octets).1.toList ++
    (segments (splitFront p.octets).2).filterMap component? := rfl
  rw [hp, within?, hcs]
  generalize splitFront p.octets = split
  obtain ⟨front, body⟩ := split
  -- The front has to be the first component, or all of them have to be those of segments
  cases front with
  | none =>
    refine ⟨dropComponents (d :: ds) (segments body), rfl, fun left hleft => ?_, fun hnone => ?_⟩
    · obtain ⟨hcomponents, hsuffix⟩ := dropComponents_eq_some hleft
      exact ⟨hsuffix, hcomponents⟩
    · exact not_isPrefix_of_dropComponents hnone
  | some c =>
    by_cases hc : c = d
    · subst hc
      refine ⟨dropComponents ds (segments body), by simp, fun left hleft => ?_, fun hnone => ?_⟩
      · obtain ⟨hcomponents, hsuffix⟩ := dropComponents_eq_some hleft
        exact ⟨hsuffix, congrArg (c :: ·) hcomponents⟩
      · intro hprefix
        exact not_isPrefix_of_dropComponents hnone (List.cons_prefix_cons.1 hprefix).2
    · refine ⟨none, by simp [hc], nofun, fun _ hprefix => ?_⟩
      exact hc (List.cons_prefix_cons.1 hprefix).1.symm

/-- What is left of a path behind another has the components behind those of the other, and its octets
are a part of those of the path. -/
theorem within?_eq_some {p base rest : Path} (h : p.within? base = some rest) :
    p.components = base.components ++ rest.components ∧ rest.octets <:+: p.octets := by
  -- A base without components takes nothing off, only the slashes at the end go
  by_cases hbase : base.components = []
  · simp only [within?, hbase] at h
    obtain rfl := Option.some.inj h
    rw [hbase, components, components, componentsOf_trimEnd]
    exact ⟨rfl, (trimEnd_isPrefix _).isInfix⟩
  · obtain ⟨left?, hwithin, hsome, -⟩ := exists_left p hbase
    rw [hwithin, Option.map_eq_some_iff] at h
    obtain ⟨left, hleft, rfl⟩ := h
    obtain ⟨hsuffix, hcomponents⟩ := hsome left hleft
    obtain ⟨hrest, hinfix⟩ := componentsOf_left hsuffix
    rw [hcomponents, ← hrest]
    -- What stands behind the root or the single dot in front
    have hbody : (splitFront p.octets).2 <:+ p.octets := ⟨_, frontOctets_append p.octets⟩
    exact ⟨rfl, hinfix.trans hbody.isInfix⟩

/-- Something is left of a path behind another exactly if its components start with those. -/
theorem within?_eq_none_iff {p base : Path} :
    p.within? base = none ↔ ¬ base.components <+: p.components := by
  constructor
  · intro h
    by_cases hbase : base.components = []
    · simp only [within?, hbase] at h
      exact nomatch h
    · obtain ⟨left?, hwithin, -, hnone⟩ := exists_left p hbase
      rw [hwithin, Option.map_eq_none_iff] at h
      exact hnone h
  · intro h
    cases hwithin : p.within? base with
    | none => rfl
    | some rest =>
      -- What is left has been taken from behind the components
      rw [(within?_eq_some hwithin).1] at h
      exact absurd (List.prefix_append _ _) h

/-- Octets that go on after the last name of a path, without a slash, are those of a path elsewhere:
its components do not start with those of the first one. -/
theorem not_isPrefix_components_of_append {p : Path} {c : UInt8} (more : List UInt8)
    {front : List (List UInt8)} {last : List UInt8} (hlast : segments p.octets = front ++ [last])
    (hidle : isIdle last = false) (hc : c ≠ slash) :
    ¬ p.components <+: (mk (p.octets ++ c :: more)).components := by
  -- Neither the empty path nor a dot alone ends in such a name
  have hshort : ∀ s : List UInt8, isIdle s = true → slash ∉ s → p.octets ≠ s := by
    intro s hs hslash hp
    rw [hp, segments, Text.splitOn_of_not_mem hslash] at hlast
    obtain rfl : s = last := by simpa using congrArg List.getLast? hlast
    exact absurd hs (Bool.eq_false_iff.1 hidle)
  have hfront : (splitFront (p.octets ++ c :: more)).1 = (splitFront p.octets).1 := by
    rw [splitFront_append (hshort [] rfl (by simp))
      fun hdot => absurd hdot (hshort [dot] rfl (by simp))]
  obtain ⟨piece, others, hmore, -⟩ := segments_cons hc more
  have hsegments : segments (p.octets ++ c :: more) = front ++ (last ++ c :: piece) :: others :=
    Text.splitOn_append hlast hmore
  have hidle' : isIdle (last ++ c :: piece) = false := by
    cases last with
    | nil => exact absurd hidle (by decide)
    | cons => simp [isIdle]
  obtain ⟨x, hx⟩ := exists_component? hidle
  obtain ⟨y, hy⟩ := exists_component? hidle'
  have hxy : x ≠ y := by
    rintro rfl
    simpa using component?_inj hidle hidle' (hx.trans hy.symm)
  -- Both start the same way up to the last name, and differ there
  rw [components, components, componentsOf_eq, componentsOf_eq, hfront, steps, steps, hlast,
    hsegments, filterMap_filter_isIdle, filterMap_filter_isIdle, List.filterMap_append,
    List.filterMap_append, List.filterMap_cons_some hx, List.filterMap_cons_some hy,
    List.prefix_append_right_inj, List.prefix_append_right_inj, List.cons_prefix_cons]
  exact fun hprefix => hxy hprefix.1

end Path

end TweetHarvest
