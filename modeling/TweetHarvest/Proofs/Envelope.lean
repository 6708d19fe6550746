import TweetHarvest.Envelope
import TweetHarvest.Proofs.Json.Lines

/-!
# Envelopes as text

The text of an envelope is one JSON object that shows its status and its message, and in the compact
layout it stays on one line, whatever characters are in the message.  Both layouts are read as the
same object, which has each further field with the value that was set last.

## Key results

- `Envelope.isLine_compact`: the compact layout keeps to one line
- `Envelope.Sound.decodes`: the object that both layouts are read as
- `Envelope.Sound.shows_compact`, `Envelope.Sound.shows_pretty`: what is read from either layout
- `Envelope.withFields_agree`: the two layouts of an envelope with fields set one after the other
-/

namespace TweetHarvest.Envelope

open Json (Value Decoder Decodes Ascending IsLine field?)

/-- The compact layout keeps to one line. -/
theorem isLine_compact (e : Envelope) : IsLine e.compact.toList := by
  rw [compact, Value.compact, String.toList_ofList]
  exact e.toValue.isLine_compactChars

/-- The further fields hide neither the status nor the message, and are read back as they are. -/
structure Sound (e : Envelope) : Prop where
  ascending : Ascending e.fields
  further : ∀ f ∈ e.fields, f.1 ≠ "status" ∧ f.1 ≠ "message"
  whole : ∀ f ∈ e.fields, f.2.Whole 126

/-- An envelope without additional fields is sound. -/
theorem sound_plain (status : Status) (message : String) : (plain status message).Sound :=
  ⟨.nil, nofun, nofun⟩

/-- A field with a new key leaves an envelope sound. -/
theorem Sound.withField {e : Envelope} (h : e.Sound) {key : String} {value : Value}
    (hkey : key ≠ "status" ∧ key ≠ "message") (hvalue : value.Whole 126) :
    (e.withField key value).Sound where
  ascending := Json.ascending_insertField h.ascending
  further f hf := by
    -- A field is the new one, or it was there before
    rcases Json.mem_insertField hf with rfl | hf
    · exact hkey
    · exact h.further f hf
  whole f hf := by
    rcases Json.mem_insertField hf with rfl | hf
    · exact hvalue
    · exact h.whole f hf

/-- The fields of an envelope in the order in which they are printed. -/
def printedFields (e : Envelope) : List (String × Value) :=
  ("status", .string e.status.name) :: ("message", .string e.message) :: e.fields

/-- The fields of the object that an envelope is read as. -/
def readFields (e : Envelope) : List (String × Value) := Json.sortFields e.printedFields

section Sound

variable {e : Envelope} (h : e.Sound)

include h

/-- The keys of the status and the message are not taken by other fields. -/
theorem Sound.notMem_keys {key : String} (hkey : key = "status" ∨ key = "message") :
    key ∉ e.fields.map (·.1) := by
  intro hmem
  obtain ⟨f, hf, rfl⟩ := List.mem_map.1 hmem
  obtain ⟨hstatus, hmessage⟩ := h.further f hf
  exact hkey.elim hstatus hmessage

/-- No key is printed twice. -/
theorem Sound.nodup_printedFields : (e.printedFields.map (·.1)).Nodup := by
  simp only [printedFields, List.map_cons, List.nodup_cons, List.mem_cons, not_or]
  exact ⟨⟨by decide, h.notMem_keys (.inl rfl)⟩, h.notMem_keys (.inr rfl), h.ascending.nodup_keys⟩

/-- An envelope is read as the object that it is. -/
theorem Sound.decodes : Decodes Decoder.any 127 e.toValue (.object e.readFields) :=
  Json.decodes_object <| List.forall_mem_cons.2 ⟨Json.whole_string _,
    List.forall_mem_cons.2 ⟨Json.whole_string _, h.whole⟩⟩

/-- The status is found under its key. -/
theorem Sound.field?_status : field? "status" e.readFields = some (.string e.status.name) :=
  Json.field?_sortFields h.nodup_printedFields (by simp [printedFields])

/-- The message is found under its key. -/
theorem Sound.field?_message : field? "message" e.readFields = some (.string e.message) :=
  Json.field?_sortFields h.nodup_printedFields (by simp [printedFields])

/-- Further fields are read as they have been set. -/
theorem Sound.field?_further {key : String} (hkey : key ≠ "status" ∧ key ≠ "message") :
    field? key e.readFields = field? key e.fields := by
  -- Neither of the two fields in front has the key
  have hfront : field? key [("message", .string e.message), ("status", .string e.status.name)] =
      none := by
    rw [field?, if_neg (Ne.symm hkey.2), field?, if_neg (Ne.symm hkey.1), field?]
  rw [readFields, Json.field?_sortFields_eq, printedFields, List.reverse_cons, List.reverse_cons,
    List.append_assoc, Json.field?_append, h.ascending.field?_reverse]
  exact (congrArg _ hfront).trans (Option.or_none ..)

end Sound

/-- The keys of an envelope as it is read. -/
theorem mem_keys_readFields {e : Envelope} {key : String} : key ∈ e.readFields.map (·.1) ↔
    key = "status" ∨ key = "message" ∨ key ∈ e.fields.map (·.1) := by
  rw [readFields, Json.mem_keys_sortFields, printedFields, List.map_cons, List.map_cons,
    List.mem_cons, List.mem_cons]

/-! ## Fields set one after the other -/

/-- Sets fields one after the other. -/
def withFields (e : Envelope) (calls : List (String × Value)) : Envelope :=
  calls.foldl (fun e (key, value) => e.withField key value) e

section Calls

variable {calls : List (String × Value)}

/-- Fields are set one after the other, and nothing else of the envelope changes. -/
theorem withFields_eq (e : Envelope) :
    e.withFields calls = { e with fields := Json.setFields e.fields calls } := by
  induction calls generalizing e with
  | nil => rfl
  | cons call calls ih => exact ih (e.withField call.1 call.2)

/-- Each call that sets a field keeps an envelope sound. -/
theorem Sound.withFields {e : Envelope} (h : e.Sound)
    (hkeys : ∀ c ∈ calls, c.1 ≠ "status" ∧ c.1 ≠ "message")
    (hvalues : ∀ c ∈ calls, c.2.Whole 126) : (e.withFields calls).Sound := by
  induction calls generalizing e with
  | nil => exact h
  | cons call calls ih =>
    obtain ⟨hkey, hkeys⟩ := List.forall_mem_cons.1 hkeys
    obtain ⟨hvalue, hvalues⟩ := List.forall_mem_cons.1 hvalues
    exact ih (h.withField hkey hvalue) hkeys hvalues

/-- The value of a key is that of the last call with it. -/
theorem field?_reverse_of_last {before after : List (String × Value)} {key : String} {value : Value}
    (hcalls : calls = before ++ (key, value) :: after) (hlast : key ∉ after.map (·.1)) :
    field? key calls.reverse = some value := by
  have hafter : field? key after.reverse = none := by
    rwa [Json.field?_eq_none_iff, List.map_reverse, List.mem_reverse]
  rw [hcalls, List.reverse_append, List.reverse_cons, List.append_assoc, Json.field?_append, hafter]
  exact if_pos rfl

/-- The two layouts of an envelope say the same.  They are read as one object, which has the status,
the message and the keys that have been set, each once, and under each key the value that was set
last.  The compact layout has no control characters, so it keeps to one line.  Doubles are taken to
be read from their own texts. -/
theorem withFields_agree (status : Status) (message : String)
    (hkeys : ∀ c ∈ calls, c.1 ≠ "status" ∧ c.1 ≠ "message")
    (hordered : ∀ c ∈ calls, c.2.Ordered) (hnesting : ∀ c ∈ calls, c.2.nesting < 127)
    (hdoubles : ∀ c ∈ calls, ∀ x ∈ c.2.doubles, x.ReadsBack) :
    let e := (plain status message).withFields calls
    (∀ c ∈ e.compact.toList, 0x20 ≤ c.toNat) ∧
    ∃ fields, Json.decode Decoder.any e.compact = .ok (.object fields) ∧
      Json.decode Decoder.any e.pretty = .ok (.object fields) ∧
      (fields.map (·.1)).Nodup ∧
      (∀ key, key ∈ fields.map (·.1) ↔
        key = "status" ∨ key = "message" ∨ key ∈ calls.map (·.1)) ∧
      field? "status" fields = some (.string status.name) ∧
      field? "message" fields = some (.string message) ∧
      ∀ before key value after, calls = before ++ (key, value) :: after →
        key ∉ after.map (·.1) → field? key fields = some value := by
  intro e
  have hsound : e.Sound := (sound_plain status message).withFields hkeys fun c hc =>
    ⟨⟨hordered c hc, Nat.le_of_lt_succ (hnesting c hc)⟩, hdoubles c hc⟩
  -- The calls have set the further fields of an envelope that had none
  have he : e = { plain status message with fields := Json.sortFields calls } := withFields_eq _
  have hfields : e.fields = Json.sortFields calls := by rw [he]
  have hstatus := hsound.field?_status
  have hmessage := hsound.field?_message
  rw [show e.status = status by rw [he]; rfl] at hstatus
  rw [show e.message = message by rw [he]; rfl] at hmessage
  refine ⟨e.isLine_compact, e.readFields, hsound.decodes.decode_compact (by decide),
    hsound.decodes.decode_pretty (by decide), (Json.ascending_sortFields _).nodup_keys, ?_,
    hstatus, hmessage, ?_⟩
  · intro key
    rw [mem_keys_readFields, hfields, Json.mem_keys_sortFields]
  · intro before key value after hcalls hlast
    have hkey := hkeys (key, value) (by simp [hcalls])
    rw [hsound.field?_further hkey, hfields, Json.field?_sortFields_eq,
      field?_reverse_of_last hcalls hlast]

end Calls

/-- Calls that set a key twice, with values of several kinds. -/
def sampleCalls : List (String × Value) :=
  [("note", .string "\"first\"\n\x00😀"),
    ("items", .array [.object [("a", .number (.float ⟨true, 2, by decide⟩)), ("b", .null)]]),
    ("note", .bool true)]

/-- The key that is set twice is read with its second value. -/
theorem withFields_agree_twice :
    let e := (plain .processing "two\r\nlines").withFields sampleCalls
    (∀ c ∈ sampleCalls, c.1 ≠ "status" ∧ c.1 ≠ "message") ∧
    (∀ c ∈ sampleCalls, c.2.Ordered) ∧ (∀ c ∈ sampleCalls, c.2.nesting < 127) ∧
    (∀ c ∈ sampleCalls, ∀ x ∈ c.2.doubles, x.ReadsBack) ∧
    (∀ c ∈ e.compact.toList, 0x20 ≤ c.toNat) ∧
    ∃ fields, Json.decode Decoder.any e.compact = .ok (.object fields) ∧
      Json.decode Decoder.any e.pretty = .ok (.object fields) ∧
      field? "message" fields = some (.string "two\r\nlines") ∧
      field? "note" fields = some (.bool true) := by
  intro e
  have hkeys : ∀ c ∈ sampleCalls, c.1 ≠ "status" ∧ c.1 ≠ "message" := by decide
  have hordered : ∀ c ∈ sampleCalls, c.2.Ordered := by decide +kernel
  have hnesting : ∀ c ∈ sampleCalls, c.2.nesting < 127 := by decide +kernel
  have hdoubles : ∀ c ∈ sampleCalls, ∀ x ∈ c.2.doubles, x.ReadsBack := by decide +kernel
  obtain ⟨hline, fields, hcompact, hpretty, -, -, -, hmessage, hlast⟩ :=
    withFields_agree .processing "two\r\nlines" hkeys hordered hnesting hdoubles
  exact ⟨hkeys, hordered, hnesting, hdoubles, hline, fields, hcompact, hpretty, hmessage,
    hlast (sampleCalls.take 2) "note" (.bool true) [] rfl List.not_mem_nil⟩

end TweetHarvest.Envelope
