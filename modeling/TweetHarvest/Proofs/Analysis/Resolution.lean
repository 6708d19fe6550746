import TweetHarvest.Analysis.Basic
import TweetHarvest.Proofs.Files.Texts

/-!
# Which inputs name a shared file

An input is taken apart by its components, not by its characters: what is left behind the components of
the shared directory, or else the input without the slashes in front, is looked up there unless it is
empty, starts at the root or leads up anywhere.

## Key results

- `Analysis.remainder_of_isPrefix`, `Analysis.remainder_of_not_isPrefix`: what is left of an input
- `Analysis.isText_remainder`: it is a text, whatever the octets of the shared directory are
- `Analysis.resolve_of_leadsOut`, `Analysis.resolve_eq_ok_iff`: what is refused, and what is looked
  up
- `Analysis.components_join_of_not_leadsOut`: the components of what is looked up
- `Analysis.resolve_exact`: exactly the inputs that stay in the shared directory are looked up
-/

namespace TweetHarvest

namespace Analysis

variable {shared : Path} {input : String}

/-- What is left of an input is a text, and can be shown as it is. -/
theorem isText_remainder (shared : Path) (input : String) : (remainder shared input).IsText := by
  unfold remainder
  cases hwithin : (Path.ofText input).within? shared with
  | none => exact Path.isText_ofText _
  | some rest => exact (Path.isText_ofText input).of_within? hwithin

/-- An input that starts with the components of the shared directory goes on with the others, and
what is left is a part of it. -/
theorem remainder_of_isPrefix (h : shared.components <+: (Path.ofText input).components) :
    (Path.ofText input).components = shared.components ++ (remainder shared input).components ∧
      (remainder shared input).text.toList <:+: input.toList := by
  have htext := isText_remainder shared input
  unfold remainder at htext ⊢
  cases hwithin : (Path.ofText input).within? shared with
  | none => exact absurd h (Path.within?_eq_none_iff.1 hwithin)
  | some rest =>
    rw [hwithin, Option.getD_some] at htext
    obtain ⟨hcomponents, hinfix⟩ := Path.within?_eq_some hwithin
    -- What is left is a text, so its octets are a part of the input character by character
    rw [← htext] at hinfix
    exact ⟨hcomponents, Utf8.infix_of_encode hinfix⟩

/-- Any other input is taken without the slashes in front. -/
theorem remainder_of_not_isPrefix (h : ¬ shared.components <+: (Path.ofText input).components) :
    remainder shared input = .ofText (String.ofList (input.toList.dropWhile (· = '/'))) := by
  rw [remainder, Path.within?_eq_none_iff.2 h]
  rfl

/-- A path leads out of where it is put if it is empty, starts at the root or leads up. -/
def LeadsOut (rest : Path) : Prop :=
  rest.octets = [] ∨ rest.isAbsolute = true ∨ .parent ∈ rest.components

/-- A path does not lead out if it is not empty, does not start at the root and has no step up. -/
theorem not_leadsOut_iff (rest : Path) :
    ¬ LeadsOut rest ↔ rest.octets ≠ [] ∧ rest.isAbsolute = false ∧ .parent ∉ rest.components := by
  rw [LeadsOut, not_or, not_or, Bool.not_eq_true]

/-- The components that stay inside are all but the root and the steps up, which the check of a path
goes by. -/
theorem all_isInner_iff (rest : Path) :
    rest.components.all isInner = true ↔ rest.isAbsolute = false ∧ .parent ∉ rest.components := by
  have habsolute : rest.isAbsolute = false ↔ .root ∉ rest.components := by
    rw [Path.root_mem_components_iff, Bool.not_eq_true]
  rw [habsolute, List.all_eq_true]
  constructor
  · intro h
    exact ⟨fun hroot => (nomatch h _ hroot), fun hparent => (nomatch h _ hparent)⟩
  · rintro ⟨hroot, hparent⟩ c hc
    cases c with
    | root => exact absurd hc hroot
    | parent => exact absurd hc hparent
    | current => rfl
    | normal name => rfl

/-- An input is refused if what is left of it leads out. -/
theorem resolve_of_leadsOut (h : LeadsOut (remainder shared input)) :
    resolve shared input = .error (.outside input) := by
  unfold resolve
  dsimp only
  split
  · rfl
  · next hinner =>
    simp only [Bool.or_eq_true, decide_eq_true_eq, Bool.not_eq_true', not_or, Bool.not_eq_false,
      all_isInner_iff] at hinner
    exact absurd h ((not_leadsOut_iff _).2 hinner)

/-- Otherwise what is left of it is looked up in the shared directory. -/
theorem resolve_of_not_leadsOut (h : ¬ LeadsOut (remainder shared input)) :
    resolve shared input =
      .ok (shared.join (remainder shared input), (remainder shared input).text) := by
  obtain ⟨hne, hinside⟩ := (not_leadsOut_iff _).1 h
  unfold resolve
  dsimp only
  split
  · next hinner =>
    simp only [Bool.or_eq_true, decide_eq_true_eq, hne, false_or, Bool.not_eq_true'] at hinner
    exact absurd ((all_isInner_iff _).2 hinside) (Bool.eq_false_iff.1 hinner)
  · rfl

/-- What an input is resolved to is what is left of it, put behind the shared directory. -/
theorem resolve_eq_ok_iff {path : Path} {shown : String} :
    resolve shared input = .ok (path, shown) ↔ ¬ LeadsOut (remainder shared input) ∧
      path = shared.join (remainder shared input) ∧ shown = (remainder shared input).text := by
  by_cases hout : LeadsOut (remainder shared input)
  · rw [resolve_of_leadsOut hout]
    exact ⟨nofun, fun h => absurd hout h.1⟩
  · rw [resolve_of_not_leadsOut hout, Except.ok.injEq, Prod.mk.injEq, eq_comm,
      @eq_comm _ _ shown]
    exact (and_iff_right hout).symm

/-- A path that does not lead out goes on from the components of the one that it is put behind. -/
theorem components_join_of_not_leadsOut (shared : Path) {rest : Path} (h : ¬ LeadsOut rest) :
    (shared.join rest).components = shared.components ++
      (if shared.octets = [] then rest.components else rest.components.filter Component.isNormal) := by
  obtain ⟨-, habsolute, hparent⟩ := (not_leadsOut_iff rest).1 h
  by_cases hempty : shared.octets = []
  · rw [if_pos hempty, Path.join_of_octets_eq hempty, Path.components_of_octets_eq hempty,
      List.nil_append]
  · rw [if_neg hempty, Path.components_join hempty habsolute,
      Path.filter_isNormal_components hparent]

/-- And it leads to a place below. -/
theorem place_join_of_not_leadsOut (here : Location) (shared : Path) {rest : Path}
    (h : ¬ LeadsOut rest) : shared.place here <+: (shared.join rest).place here := by
  obtain ⟨-, habsolute, hparent⟩ := (not_leadsOut_iff rest).1 h
  have hdots : [Path.dot, Path.dot] ∉ Path.segments rest.octets :=
    mt (Path.parent_mem_components_iff rest).2 hparent
  exact Path.place_isPrefix_place_join here shared habsolute hdots

/-- An input is looked up exactly if it stays in the shared directory, whatever the octets of the
directory are.

What is left of an input is told by the components: it is what follows those of the shared directory,
or the input without the slashes in front if it does not start with them.  It is refused exactly if
it is empty, starts at the root or leads up anywhere.  Otherwise it is shown as it is, and the path
that is looked up goes on from the components of the shared directory with its names, so that the
path leads to a place below the shared directory.  An input that only starts with the octets of the
shared directory, and goes on without a slash, does not start with its components. -/
theorem resolve_exact (here : Location) (shared : Path) (input : String) :
    let rest := remainder shared input
    let asked := (Path.ofText input).components
    Path.ofText rest.text = rest ∧
    (shared.components <+: asked →
      asked = shared.components ++ rest.components ∧ rest.text.toList <:+: input.toList) ∧
    (¬ shared.components <+: asked →
      rest = .ofText (String.ofList (input.toList.dropWhile (· = '/')))) ∧
    (∀ fault, resolve shared input = .error fault ↔ fault = .outside input ∧
      (rest.octets = [] ∨ rest.isAbsolute = true ∨ .parent ∈ rest.components)) ∧
    (∀ path shown, resolve shared input = .ok (path, shown) →
      shown = rest.text ∧
      path.components = shared.components ++
        (if shared.octets = [] then rest.components
          else rest.components.filter Component.isNormal) ∧
      shared.components <+: path.components ∧ shared.place here <+: path.place here) ∧
    (∀ front last c more, Path.segments shared.octets = front ++ [last] →
      Path.isIdle last = false → c ≠ Path.slash → Utf8.octets input = shared.octets ++ c :: more →
      ¬ shared.components <+: asked) := by
  intro rest asked
  refine ⟨isText_remainder shared input, remainder_of_isPrefix, remainder_of_not_isPrefix,
    fun fault => ?_, fun path shown h => ?_, fun front last c more hlast hidle hc hinput => ?_⟩
  -- What is refused, and with which fault
  · by_cases hout : LeadsOut rest
    · rw [resolve_of_leadsOut hout, Except.error.injEq, eq_comm]
      exact (and_iff_left hout).symm
    · rw [resolve_of_not_leadsOut hout]
      exact ⟨nofun, fun ⟨_, h⟩ => absurd h hout⟩
  -- What is looked up, and where
  · obtain ⟨hout, rfl, rfl⟩ := resolve_eq_ok_iff.1 h
    have hpath := components_join_of_not_leadsOut shared hout
    refine ⟨rfl, hpath, ?_, place_join_of_not_leadsOut here shared hout⟩
    rw [hpath]
    exact List.prefix_append _ _
  -- A longer name is another component
  · have h := Path.not_isPrefix_components_of_append more hlast hidle hc
    rwa [← hinput] at h

/-- A longer name than that of the shared directory is looked up in it. -/
example : (resolve (.ofText "/shared") "/sharedx/f").toOption =
    some (.ofText "/shared/sharedx/f", "sharedx/f") := by
  decide +kernel

end Analysis

end TweetHarvest
