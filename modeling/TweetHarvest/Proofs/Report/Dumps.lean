import TweetHarvest.Proofs.Json.Values
import TweetHarvest.Report
import TweetHarvest.Service.Client

/-!
# Dumps read back

The items of a dump stand one level deeper in its text than they stood in the body that they came
with.  So the reader takes the text of a dump as long as it has a level to spare for the body, and
refuses the dump of a body that has used up all levels.

## Key results

- `RawDump.decode_pretty`: a dump is read back if it has a level less than the reader's limit
- `Client.tidy_of_interpret`, `Client.interpret_compact`: what is known of the items that the service
  answers with, and that every such list is answered with
-/

namespace TweetHarvest

open Json (Value Decoder Decodes nestingLimit withinLimit)

namespace RawDump

/-- The fields of a dump. -/
private def fields (d : RawDump) : List (String × Value) :=
  [("items", .array d.items), ("dataset_id", .string d.datasetId)]

variable {d : RawDump} (hordered : (Value.array d.items).Ordered)
  (hdoubles : ∀ x ∈ (Value.array d.items).doubles, x.ReadsBack)

include hordered hdoubles

/-- The items are decoded if all their levels may be entered. -/
theorem decodes_items :
    Decodes (Decoder.list Decoder.any) (Value.array d.items).nesting (.array d.items) d.items := by
  intro depth
  rw [Json.list_any_node _ hordered hdoubles]
  exact if_pos (Nat.le_add_left ..)

/-- A dump has a level more than its items. -/
theorem decodes : Decodes decoder ((Value.array d.items).nesting + 1) d.toValue d := by
  have hitems := decodes_items hordered hdoubles
  have hdataset := Json.decodes_string (Value.array d.items).nesting d.datasetId
  show Decodes _ _ (.object d.fields) d
  refine Json.decodes_record ?_ ?_ fun row h => ?_
  · decide
  · exact .cons hitems.check <| .cons hdataset.check .nil
  · rw [h.required "items" (by simp [fields]) hitems,
      h.required "dataset_id" (by simp [fields]) hdataset]
    rfl

omit hordered hdoubles in
/-- The first fault of a dump is that of its items. -/
private theorem decoder_eq_error {depth : Nat} {f : Json.Fault}
    (h : Decoder.list Decoder.any depth (Value.array d.items).node = .error f) :
    decoder (depth + 1) d.toValue.node = .error f := by
  have hcheck : Decoder.check (Decoder.list Decoder.any) depth (Value.array d.items).node =
      .error f := by
    rw [Decoder.check, h]
    rfl
  show (Json.collectMembers _ depth [] ((.ok "items", (Value.array d.items).node) :: _) >>= _) = _
  rw [Json.collectMembers]
  simp only [bind, Except.bind, List.find?_cons, List.any_nil, beq_self_eq_true,
    Bool.false_eq_true, if_false, hcheck]

/-- A dump is read back from its text if there is a level left for the dump itself. -/
theorem decode_pretty :
    Json.decode decoder d.toValue.pretty =
      if (Value.array d.items).nesting < nestingLimit then .ok d else .error .malformed := by
  by_cases hlevels : (Value.array d.items).nesting < nestingLimit
  · rw [if_pos hlevels]
    exact (decodes hordered hdoubles).decode_pretty hlevels
  -- The items may not enter as many levels as they have, and nothing before them is at fault
  · rw [if_neg hlevels]
    have hitems : Decoder.list Decoder.any 126 (Value.array d.items).node = .error .malformed := by
      rw [Json.list_any_node _ hordered hdoubles]
      exact if_neg (by rw [nestingLimit] at hlevels; omega)
    have herror := decoder_eq_error hitems
    simp only [Json.decode, Json.decodeChars, Json.Node.ofChars_pretty, nestingLimit, herror]
    rfl

end RawDump

namespace Client

/-- Items that the service has answered with are tidy. -/
theorem tidy_of_interpret {answer : Http.Outcome} {items : List Value}
    (h : interpret (Decoder.list Decoder.any) answer = .ok items) :
    (Value.array items).Tidy nestingLimit := by
  unfold interpret at h
  split at h
  · exact nomatch h
  · split at h
    · split at h
      · next hdecode =>
        cases h
        -- Only a body that is decoded leaves items
        exact Json.list_any_eq_ok (Json.decodeChars_eq_ok hdecode)
      · exact nomatch h
    · exact nomatch h

/-- The text of items within the limit is a body that the service may answer with. -/
theorem interpret_compact {items : List Value} {body : ByteArray}
    (hordered : (Value.array items).Ordered)
    (hdoubles : ∀ x ∈ (Value.array items).doubles, x.ReadsBack)
    (hnesting : (Value.array items).nesting ≤ nestingLimit)
    (hbody : jsonSymbols false (Utf8.pieces body.data.toList) = (Value.array items).compactChars) :
    interpret (Decoder.list Decoder.any) (.response 200 body) = .ok items := by
  have hdecode : decodeBody (Decoder.list Decoder.any) body = .ok items := by
    have hitems := Json.list_any_node nestingLimit hordered hdoubles
    rw [withinLimit, if_pos hnesting] at hitems
    have hread := Json.Node.ofChars_compact (.array items)
    rw [Value.compact, String.toList_ofList] at hread
    -- The body has the characters of the compact text, so it has the same syntax tree
    rw [decodeBody, hbody, Json.decodeChars, hread]
    simp only [bind, Except.bind, hitems]
    rfl
  simp only [interpret, hdecode]
  rfl

end Client

end TweetHarvest
