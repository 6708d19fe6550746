import Mathlib.Data.List.Basic
import TweetHarvest.CommandLine.Grammar
import TweetHarvest.Proofs.Text.Ends
import TweetHarvest.Proofs.Text.Pieces
import TweetHarvest.Settings

/-!
# Lists of proxy groups

A list of groups may come in several texts, each with commas in it, and the command line may have
divided them before.  Only the pieces between the commas matter, in the order in which they stand:
blank ones are left out, the others are taken without the blanks around them.

## Key results

- `proxyGroups_eq`: the groups are the pieces between the commas, trimmed, without blank ones
- `proxyGroups_append`, `proxyGroups_intercalate`, `proxyGroups_split`: the same pieces in other texts
- `proxyGroups_eq_self_iff`: what is left as it is
- `proxyGroups_rechunked`: the groups do not depend on how they come
-/

namespace TweetHarvest

open Text (IsTrimmed splitOn joinWith trim?)

/-- The pieces between the commas of a text. -/
def commaPieces (list : String) : List String := (splitOn ',' list.toList).map String.ofList

/-- A name that can stand in a list of groups. -/
structure IsGroupName (name : String) : Prop extends IsTrimmed name where
  noComma : ',' ∉ name.toList

/-! ## Pieces between commas -/

/-- Lists are joined with commas character by character. -/
theorem toList_intercalate_comma (lists : List String) :
    (",".intercalate lists).toList = joinWith ',' (lists.map String.toList) := by
  induction lists with
  | nil => simp [joinWith]
  | cons list rest ih =>
    cases rest with
    | nil => simp [joinWith]
    | cons next others =>
      rw [String.intercalate_cons_cons, String.toList_append, String.toList_append, ih,
        List.append_assoc]
      rfl

/-- A list without commas is one piece. -/
theorem commaPieces_of_notMem {list : String} (h : ',' ∉ list.toList) : commaPieces list = [list] := by
  rw [commaPieces, Text.splitOn_of_not_mem h, List.map_singleton, String.ofList_toList]

/-- No comma stands in a piece. -/
theorem noComma_of_mem_commaPieces {list piece : String} (h : piece ∈ commaPieces list) :
    ',' ∉ piece.toList := by
  obtain ⟨chars, hchars, rfl⟩ := List.mem_map.1 h
  rw [String.toList_ofList]
  exact Text.not_mem_of_mem_splitOn hchars

/-- The pieces of a text joined again. -/
theorem intercalate_commaPieces (list : String) : ",".intercalate (commaPieces list) = list := by
  have hpieces : (commaPieces list).map String.toList = splitOn ',' list.toList := by
    simp [commaPieces, Function.comp_def]
  rw [← String.toList_inj, toList_intercalate_comma, hpieces, Text.joinWith_splitOn]

/-- The pieces of texts joined with commas are those of the texts. -/
theorem commaPieces_intercalate {lists : List String} (hne : lists ≠ []) :
    commaPieces (",".intercalate lists) = lists.flatMap commaPieces := by
  rw [commaPieces, toList_intercalate_comma,
    Text.splitOn_joinWith_flatMap (by simpa using hne), List.flatMap_map, List.map_flatMap]
  rfl

/-! ## Groups -/

/-- The groups are the pieces between the commas, trimmed, without blank ones. -/
theorem proxyGroups_eq (lists : List String) :
    proxyGroups lists = (lists.flatMap commaPieces).filterMap trim? := by
  -- A piece is blank exactly if nothing of it is left
  have hblank : ∀ piece : List Char,
      (Text.trimChars piece).isEmpty = Text.isAllBlank (String.ofList piece) := by
    intro piece
    rw [Bool.eq_iff_iff, List.isEmpty_iff, Text.trimChars_eq_nil_iff, Text.isAllBlank,
      String.toList_ofList, List.all_eq_true]
  have htrim : ∀ piece : List Char, trim? (String.ofList piece) =
      if (Text.trimChars piece).isEmpty then none else some (String.ofList (Text.trimChars piece)) := by
    intro piece
    rw [hblank, trim?, Text.trim, String.toList_ofList]
  have hpieces : lists.flatMap commaPieces =
      (lists.flatMap fun list => splitOn ',' list.toList).map String.ofList := by
    rw [List.map_flatMap]
    rfl
  rw [hpieces, List.filterMap_map]
  exact congrArg (List.filterMap · _) (funext fun piece => (htrim piece).symm)

/-- The names of two rows of lists are those of the first and those of the second. -/
theorem proxyGroups_append (a b : List String) :
    proxyGroups (a ++ b) = proxyGroups a ++ proxyGroups b := by
  simp only [proxyGroups_eq, List.flatMap_append, List.filterMap_append]

/-- Texts joined with commas have the groups of the texts. -/
theorem proxyGroups_intercalate (lists : List String) :
    proxyGroups [",".intercalate lists] = proxyGroups lists := by
  by_cases hne : lists = []
  -- Without any text there is one piece, which is blank
  · rw [hne]
    decide
  · simp only [proxyGroups_eq, List.flatMap_singleton, commaPieces_intercalate hne]

/-- The command line may divide the texts or not. -/
theorem proxyGroups_split (o : OptionSpec) (lists : List String) :
    proxyGroups (lists.flatMap (Grammar.split o)) = proxyGroups lists := by
  have hsplit : ∀ list : String, (Grammar.split o list).flatMap commaPieces = commaPieces list := by
    intro list
    unfold Grammar.split
    split
    · show (commaPieces list).flatMap commaPieces = _
      -- A piece has no comma, so that it is its only piece
      exact Text.flatMap_eq_self fun piece hpiece =>
        commaPieces_of_notMem (noComma_of_mem_commaPieces hpiece)
    · exact List.flatMap_singleton ..
  simp only [proxyGroups_eq, List.flatMap_assoc, hsplit]

/-- All names that are found are those of groups. -/
theorem isGroupName_of_mem {lists : List String} {name : String} (h : name ∈ proxyGroups lists) :
    IsGroupName name := by
  rw [proxyGroups_eq, List.mem_filterMap] at h
  obtain ⟨piece, hpiece, hname⟩ := h
  obtain ⟨list, -, hpiece⟩ := List.mem_flatMap.1 hpiece
  obtain ⟨hblank, rfl⟩ := Text.trim?_eq_some_iff.1 hname
  refine ⟨Text.isTrimmed_trim hblank, fun hcomma => noComma_of_mem_commaPieces hpiece ?_⟩
  rw [Text.trim, String.toList_ofList] at hcomma
  exact Text.mem_of_mem_trimChars hcomma

/-- Names of groups are left as they are, and nothing else. -/
theorem proxyGroups_eq_self_iff {lists : List String} :
    proxyGroups lists = lists ↔ ∀ name ∈ lists, IsGroupName name := by
  constructor
  · intro h name hname
    rw [← h] at hname
    exact isGroupName_of_mem hname
  · intro h
    have hpieces : lists.flatMap commaPieces = lists :=
      Text.flatMap_eq_self fun name hname => commaPieces_of_notMem (h name hname).noComma
    have htrim : ∀ name ∈ lists, trim? name = some name := fun name hname => (h name hname).trim?_eq
    rw [proxyGroups_eq, hpieces, List.filterMap_congr htrim, List.filterMap_some]

/-- The groups do not depend on how the list of them comes: in one text or in several, joined with
commas, divided by the command line or not, or as the groups of a list.  They are the pieces between
the commas in the order in which they stand, each as often as it stands there, trimmed and without
blank ones. -/
theorem proxyGroups_rechunked (a b : List String) :
    proxyGroups (a ++ b) = proxyGroups a ++ proxyGroups b ∧
    proxyGroups [",".intercalate a] = proxyGroups a ∧
    (∀ o : OptionSpec, proxyGroups (a.flatMap (Grammar.split o)) = proxyGroups a) ∧
    proxyGroups (proxyGroups a) = proxyGroups a ∧
    (∀ name ∈ proxyGroups a, IsGroupName name) ∧
    ∃ parts : List (List String), parts.map ",".intercalate = a ∧
      (∀ piece ∈ parts.flatten, ',' ∉ piece.toList) ∧
      proxyGroups a = parts.flatten.filterMap trim? := by
  refine ⟨proxyGroups_append a b, proxyGroups_intercalate a, fun o => proxyGroups_split o a,
    proxyGroups_eq_self_iff.2 fun name => isGroupName_of_mem, fun name => isGroupName_of_mem,
    a.map commaPieces, ?_, ?_, ?_⟩
  -- The parts of a text are its pieces, which joined give it back
  · simp only [List.map_map, Function.comp_def, intercalate_commaPieces, List.map_id']
  · rw [← List.flatMap_def]
    intro piece hpiece
    obtain ⟨list, -, hpiece⟩ := List.mem_flatMap.1 hpiece
    exact noComma_of_mem_commaPieces hpiece
  · rw [← List.flatMap_def, proxyGroups_eq]

/-- Blanks of all kinds, stray commas and a group named twice, in one text and in two. -/
theorem proxyGroups_rechunked_stray :
    let lists := ["\u00a0US ,, RES IDENTIAL\u3000", " ,\t", "US"]
    proxyGroups lists = ["US", "RES IDENTIAL", "US"] ∧
    proxyGroups [",".intercalate lists] = ["US", "RES IDENTIAL", "US"] ∧ IsGroupName "US" := by
  intro lists
  have hgroups : proxyGroups lists = ["US", "RES IDENTIAL", "US"] := by decide +kernel
  obtain ⟨-, hjoined, -, -, hnames, -⟩ := proxyGroups_rechunked lists []
  exact ⟨hgroups, hjoined.trans hgroups, hnames "US" (by rw [hgroups]; exact List.mem_cons_self ..)⟩

end TweetHarvest
