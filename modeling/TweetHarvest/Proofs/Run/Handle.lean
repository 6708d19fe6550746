import TweetHarvest.Proofs.Json.Parts
import TweetHarvest.Proofs.Json.Records
import TweetHarvest.Run.Handle

/-!
# Handles read back

A handle holds what its text says, whichever way the text was written, and the text of a handle that
has been read gives the handle back.  The wording of a status survives both ways, known or not.

## Key results

- `RunStatus.text_ofString`: the wording of a status is the text that it was read from
- `RunStatus.isTerminal_ofString_iff`: the wordings of the statuses that never change again
- `RunHandle.decodes`: the decoder gives a handle back
- `RunHandle.writtenIn_of_decoder`: what the text of a handle says
- `RunHandle.decode_reprinted`: a handle survives being printed
-/

namespace TweetHarvest

open Json (Node Decoder Decodes decodes_string decodes_optionalString decodes_record)

/-! ## Statuses -/

namespace RunStatus

/-- The wording in the table of a status is its own. -/
theorem text_of_mem_known : ∀ entry ∈ known, entry.1.text = entry.2 := by decide

/-- The wording of a status is the text that it was read from. -/
@[simp] theorem text_ofString (s : String) : (ofString s).text = s := by
  unfold ofString
  split
  · next status wording hfind =>
    have hwording : wording = s := by simpa using List.find?_some hfind
    rw [text_of_mem_known _ (List.mem_of_find?_eq_some hfind), hwording]
  · rfl

/-- The wordings of the statuses that never change again. -/
def terminalWordings : List String := ["SUCCEEDED", "FAILED", "ABORTED", "TIMED-OUT"]

/-- A status that never changes again has one of the four wordings. -/
theorem text_mem_terminalWordings {status : RunStatus} (h : status.isTerminal = true) :
    status.text ∈ terminalWordings := by
  cases status with
  | succeeded | failed | aborted | timedOut => simp [text, terminalWordings]
  | ready | running | aborting | timingOut | other => exact nomatch h

/-- A status that was read never changes again if its wording says so. -/
theorem isTerminal_ofString_iff (s : String) :
    (ofString s).isTerminal = true ↔ s ∈ terminalWordings := by
  constructor
  · intro h
    have htext := text_mem_terminalWordings h
    rwa [text_ofString] at htext
  · intro h
    have hterminal : ∀ wording ∈ terminalWordings, (ofString wording).isTerminal = true := by decide
    exact hterminal s h

end RunStatus

namespace RunHandle

/-! ## The text that a handle was read from -/

/-- The keys of a handle. -/
def keys : List String := ["id", "status", "defaultDatasetId"]

/-- The tree says what the handle holds: its id and the wording of its status, and the id of its
dataset, which is null or left out if there is none. -/
structure WrittenIn (h : RunHandle) (tree : Node) : Prop where
  once : ((tree.parts keys).map (·.1)).Nodup
  id : ("id", .string (.ok h.id)) ∈ tree.parts keys
  status : ("status", .string (.ok h.status.text)) ∈ tree.parts keys
  dataset : match h.datasetId with
    | some id => ("defaultDatasetId", .string (.ok id)) ∈ tree.parts keys
    | none => ∀ node, ("defaultDatasetId", node) ∈ tree.parts keys → node = .null

/-- A handle that is read holds what the tree says, and its status comes from a wording. -/
theorem writtenIn_of_decoder {depth : Nat} {tree : Node} {h : RunHandle}
    (hread : decoder depth tree = .ok h) :
    h.WrittenIn tree ∧ ∃ wording, h.status = RunStatus.ofString wording := by
  obtain ⟨row, hbuild, hparts, hkeys⟩ := Json.record_eq_ok (by decide) hread
  obtain ⟨id, hid, hbuild⟩ := bind_eq_ok_iff.1 hbuild
  obtain ⟨wording, hwording, hbuild⟩ := bind_eq_ok_iff.1 hbuild
  obtain ⟨dataset, hdataset, hbuild⟩ := bind_eq_ok_iff.1 hbuild
  cases hbuild
  have hdataset := Json.Row.defaulted_eq_ok hkeys hdataset
  -- The row has the parts of the tree, so what the row was asked for is among them
  rw [hparts] at hkeys
  refine ⟨⟨hkeys, ?_, ?_, ?_⟩, wording, rfl⟩
  · exact hparts ▸ Json.Row.mem_of_required_string hid
  · rw [RunStatus.text_ofString]
    exact hparts ▸ Json.Row.mem_of_required_string hwording
  · cases dataset with
    | none => exact hparts ▸ hdataset
    | some datasetId =>
      obtain ⟨node, hmem, hnode⟩ := hdataset
      obtain rfl := Decoder.string_eq_ok_iff.1 hnode
      exact hparts ▸ hmem

/-! ## Reading a printed handle -/

/-- The decoder gives back a handle whose status has not taken the wording of another. -/
theorem decodes {h : RunHandle} (hstatus : RunStatus.ofString h.status.text = h.status) :
    Decodes decoder 1 h.toValue h := by
  have hstring := decodes_string 0
  have hdataset := decodes_optionalString 0 h.datasetId
  show Decodes _ (0 + 1) (.object _) h
  refine decodes_record (by decide) ?_ fun row hrow => ?_
  · exact .cons (hstring h.id).check <| .cons (hstring h.status.text).check <|
      .cons hdataset.check .nil
  · rw [hrow.required "id" (by simp) (hstring h.id),
      hrow.required "status" (by simp) (hstring h.status.text),
      hrow.defaulted "defaultDatasetId" (by simp) hdataset]
    -- The wording of the status is read anew
    show Except.ok { h with status := RunStatus.ofString h.status.text } = _
    rw [hstatus]

/-- A handle that is read holds what its text says and survives being printed: either text of it
gives the same handle.  No wording of a status is lost on the way, and it tells whether the status
can change again. -/
theorem decode_reprinted :
    (∀ (text : String) (h : RunHandle), Json.decode decoder text = .ok h →
      h.WrittenIn (Node.ofChars text.toList).1 ∧
        Json.decode decoder h.toValue.compact = .ok h ∧
        Json.decode decoder h.toValue.pretty = .ok h) ∧
      ∀ wording, (RunStatus.ofString wording).text = wording ∧
        RunStatus.ofString (RunStatus.ofString wording).text = RunStatus.ofString wording ∧
        ((RunStatus.ofString wording).isTerminal = true ↔
          wording ∈ ["SUCCEEDED", "FAILED", "ABORTED", "TIMED-OUT"]) := by
  constructor
  · intro text h hread
    obtain ⟨hwritten, wording, hwording⟩ := writtenIn_of_decoder (Json.decodeChars_eq_ok hread)
    -- The status was read from a wording, which it keeps
    have hstatus : RunStatus.ofString h.status.text = h.status := by
      rw [hwording, RunStatus.text_ofString]
    have hdecodes := decodes hstatus
    exact ⟨hwritten, hdecodes.decode_compact (by decide), hdecodes.decode_pretty (by decide)⟩
  · intro wording
    refine ⟨RunStatus.text_ofString wording, ?_, RunStatus.isTerminal_ofString_iff wording⟩
    rw [RunStatus.text_ofString]

/-- A handle with its keys in another order and one of them unknown, without a dataset; its status
is written with an escape and in small letters. -/
def reordered : String :=
  "\x7b\"status\":\"a\\u0062orted\",\"extra\":[\x7b\x7d],\"defaultDatasetId\":null, \"id\":\"r\"\x7d"

/-- Its status is kept as it was written, so it is not one of those that never change. -/
theorem decode_reprinted_reordered :
    (⟨"r", .other "aborted", none⟩ : RunHandle).WrittenIn (Node.ofChars reordered.toList).1 ∧
      Json.decode decoder
        "\x7b\"id\":\"r\",\"status\":\"aborted\",\"defaultDatasetId\":null\x7d" =
          .ok ⟨"r", .other "aborted", none⟩ ∧
      (RunStatus.ofString "aborted").isTerminal = false := by
  have hread : Json.decode decoder reordered = .ok ⟨"r", .other "aborted", none⟩ := by
    decide +kernel
  obtain ⟨hwritten, hcompact, -⟩ := decode_reprinted.1 _ _ hread
  obtain ⟨-, -, hterminal⟩ := decode_reprinted.2 "aborted"
  refine ⟨hwritten, hcompact, ?_⟩
  rw [Bool.eq_false_iff, Ne, hterminal]
  decide

end RunHandle

end TweetHarvest
