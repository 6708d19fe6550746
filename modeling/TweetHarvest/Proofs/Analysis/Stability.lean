import TweetHarvest.Proofs.Analysis.Resolution

/-!
# Resolving a path again

The path that an input leads to starts with the components of the shared directory, so that the
second time they are taken off and only names are left.  Names can be looked up again and lead to
the same path.  But an input of a dot alone leaves no name: it leads to the shared directory itself,
which is refused when it is asked for by its own path.  A path can be asked for if it is a text, that
is if the shared directory is one.

## Key results

- `Analysis.components_remainder_of_resolve`: what is left of a resolved path
- `Analysis.eq_components_iff`: the inputs that lead to the shared directory itself
- `Analysis.resolve_again`: a resolved path is resolved to itself, unless it is the shared directory
-/

namespace TweetHarvest

/-- Only the empty path has no components. -/
theorem Path.components_eq_nil_iff {p : Path} : p.components = [] ↔ p.octets = [] := by
  constructor
  · intro h
    rw [components, componentsOf_eq, List.append_eq_nil_iff, steps, filterMap_filter_isIdle] at h
    obtain ⟨hfront, hsegments⟩ := h
    by_contra hne
    -- Without a front, the first segment would be a component
    obtain ⟨first, rest, hfirst⟩ := List.exists_cons_of_ne_nil (Text.splitOn_ne_nil slash p.octets)
    have hidle : isIdle first = false :=
      isIdle_head_of_splitFront (Option.toList_eq_nil_iff.1 hfront) hne hfirst
    obtain ⟨c, hc⟩ := exists_component? hidle
    rw [segments, hfirst, List.filterMap_cons_some hc] at hsegments
    exact List.cons_ne_nil _ _ hsegments
  · exact components_of_octets_eq

namespace Analysis

/-- A path without names that does not lead out is a dot. -/
theorem components_eq_current_of_not_leadsOut {rest : Path} (h : ¬ LeadsOut rest)
    (hnames : rest.components.filter Component.isNormal = []) : rest.components = [.current] := by
  obtain ⟨hne, habsolute, hparent⟩ := (not_leadsOut_iff rest).1 h
  have hroot : Component.root ∉ rest.components := by
    rw [Path.root_mem_components_iff, habsolute]
    exact Bool.false_ne_true
  -- What is no name stands in front, and there is only one such component
  have hfront : rest.components = (Path.splitFront rest.octets).1.toList := by
    rw [Path.filter_isNormal_components hparent] at hnames
    rw [Path.components, Path.componentsOf_eq, Path.steps, Path.filterMap_filter_isIdle, hnames,
      List.append_nil]
  cases hc : (Path.splitFront rest.octets).1 with
  | none =>
    rw [hc] at hfront
    exact absurd (Path.components_eq_nil_iff.1 hfront) hne
  | some c =>
    rw [hc, Option.toList_some] at hfront
    cases c with
    | current => exact hfront
    | root => simp [hfront] at hroot
    | parent => simp [hfront] at hparent
    | normal name => simp [hfront, Component.isNormal] at hnames

section Resolved

variable {shared path : Path} {input shown : String} (h : resolve shared input = .ok (path, shown))

include h

/-- What is shown of an input is what has been put behind the shared directory. -/
private theorem shown_of_resolve :
    ¬ LeadsOut (.ofText shown) ∧ path = shared.join (.ofText shown) := by
  obtain ⟨hinside, rfl, rfl⟩ := resolve_eq_ok_iff.1 h
  have hshown : Path.ofText (remainder shared input).text = remainder shared input :=
    isText_remainder shared input
  rw [hshown]
  exact ⟨hinside, rfl⟩

/-- A path that an input has been resolved to is a text exactly if the shared directory is one. -/
theorem isText_iff_of_resolve : path.IsText ↔ shared.IsText := by
  obtain ⟨hinside, rfl⟩ := shown_of_resolve h
  rw [Path.isText_join shared ((not_leadsOut_iff _).1 hinside).2.1]
  exact and_iff_left (Path.isText_ofText shown)

/-- An input leads to the shared directory itself if it is a dot there. -/
theorem eq_components_iff : path.components = shared.components ↔
    shared.octets ≠ [] ∧ (Path.ofText shown).components = [.current] := by
  obtain ⟨hinside, rfl⟩ := shown_of_resolve h
  rw [components_join_of_not_leadsOut shared hinside, List.append_right_eq_self]
  by_cases hempty : shared.octets = []
  · have hne := ((not_leadsOut_iff _).1 hinside).1
    simp [hempty, Path.components_eq_nil_iff, hne]
  · rw [if_neg hempty, and_iff_right hempty]
    constructor
    · exact components_eq_current_of_not_leadsOut hinside
    · intro hdot
      rw [hdot]
      rfl

variable {asked : String} (hasked : Path.ofText asked = path)

include hasked

/-- What is left of a resolved path are the names that have been put behind the shared directory. -/
theorem components_remainder_of_resolve :
    (remainder shared asked).components =
      if shared.octets = [] then (Path.ofText shown).components
      else (Path.ofText shown).components.filter Component.isNormal := by
  obtain ⟨hinside, rfl⟩ := shown_of_resolve h
  have hjoin := components_join_of_not_leadsOut shared hinside
  rw [← hasked] at hjoin
  -- The second time the components of the shared directory are taken off
  have hprefix : shared.components <+: (Path.ofText asked).components := by
    rw [hjoin]
    exact List.prefix_append _ _
  have hremainder := (remainder_of_isPrefix hprefix).1
  exact List.append_cancel_left (hremainder.symm.trans hjoin)

/-- What is left of a resolved path leads nowhere else, so the path is refused only where nothing
is left of it. -/
theorem leadsOut_remainder_iff :
    LeadsOut (remainder shared asked) ↔ path.components = shared.components := by
  have hremainder := components_remainder_of_resolve h hasked
  obtain ⟨hinside, rfl⟩ := shown_of_resolve h
  obtain ⟨-, habsolute, hparent⟩ := (not_leadsOut_iff _).1 hinside
  -- All components that are left are among those that have been put there
  have hsubset : ∀ c ∈ (remainder shared asked).components,
      c ∈ (Path.ofText shown).components := by
    intro c hc
    rw [hremainder] at hc
    split at hc
    · exact hc
    · exact List.mem_of_mem_filter hc
  have hroot : ¬ (remainder shared asked).isAbsolute = true := by
    rw [← Path.root_mem_components_iff]
    intro hroot
    rw [(Path.root_mem_components_iff _).1 (hsubset _ hroot)] at habsolute
    exact nomatch habsolute
  -- So nothing but emptiness can speak against what is left
  rw [LeadsOut, or_iff_left (not_or.2 ⟨hroot, fun hc => hparent (hsubset _ hc)⟩),
    ← Path.components_eq_nil_iff, hremainder, components_join_of_not_leadsOut shared hinside,
    List.append_right_eq_self]

omit hasked

/-- A path that an input has been resolved to is resolved again, and to itself, exactly if it is
not the shared directory, and otherwise it is refused.  It is the shared directory if a dot, with
any slashes around it, has been looked up there; an empty path has no such place.

The path is given again as a text with its octets.  What is shown of it is one if the shared directory
is a text, and if it is not there is none. -/
theorem resolve_again :
    (path.IsText ↔ shared.IsText) ∧
    (∀ asked, Path.ofText asked = path →
      (path.components ≠ shared.components → ∃ again shown',
        resolve shared asked = .ok (again, shown') ∧ again.components = path.components) ∧
      (path.components = shared.components →
        resolve shared asked = .error (.outside asked))) ∧
    (path.components = shared.components ↔
      shared.octets ≠ [] ∧ (Path.ofText shown).components = [.current]) := by
  refine ⟨isText_iff_of_resolve h, fun asked hasked => ⟨fun hne => ?_, fun heq => ?_⟩,
    eq_components_iff h⟩
  · have hinside : ¬ LeadsOut (remainder shared asked) :=
      mt (leadsOut_remainder_iff h hasked).1 hne
    refine ⟨_, _, resolve_of_not_leadsOut hinside, ?_⟩
    -- The names that are left are those that were put there before
    have hremainder := components_remainder_of_resolve h hasked
    obtain ⟨hshown, rfl⟩ := shown_of_resolve h
    rw [components_join_of_not_leadsOut shared hinside,
      components_join_of_not_leadsOut shared hshown, hremainder]
    by_cases hempty : shared.octets = []
    · simp only [if_pos hempty]
    · simp only [if_neg hempty, List.filter_filter, Bool.and_self]
  · exact resolve_of_leadsOut ((leadsOut_remainder_iff h hasked).2 heq)

end Resolved

/-- A name behind dots and slashes is resolved to the same path again. -/
theorem resolve_again_dotted :
    resolve (.ofText "/shared/") "//./sub/./notes.txt" =
      .ok (.ofText "/shared/./sub/./notes.txt", "./sub/./notes.txt") ∧
    ∃ again shown', resolve (.ofText "/shared/") "/shared/./sub/./notes.txt" = .ok (again, shown') ∧
      again.components = (Path.ofText "/shared/./sub/./notes.txt").components :=
  have h : resolve (.ofText "/shared/") "//./sub/./notes.txt" =
    .ok (.ofText "/shared/./sub/./notes.txt", "./sub/./notes.txt") := by decide +kernel
  ⟨h, ((resolve_again h).2.1 _ rfl).1 (by decide +kernel)⟩

/-- A dot is looked up in the shared directory, but the path that it is resolved to is refused. -/
theorem resolve_dot_refused :
    resolve (.ofText "/shared") "." = .ok (.ofText "/shared/.", ".") ∧
    ¬ ∃ again shown', resolve (.ofText "/shared") "/shared/." = .ok (again, shown') ∧
      again.components = (Path.ofText "/shared/.").components := by
  have hdot : resolve (.ofText "/shared") "." = .ok (.ofText "/shared/.", ".") := by decide +kernel
  have hrefused : resolve (.ofText "/shared") "/shared/." = .error (.outside "/shared/.") := by
    decide +kernel
  refine ⟨hdot, ?_⟩
  rintro ⟨again, shown', hagain, -⟩
  exact nomatch hrefused.symm.trans hagain

end Analysis

end TweetHarvest
