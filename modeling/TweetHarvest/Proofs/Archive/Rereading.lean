import TweetHarvest.Proofs.Archive.Saving
import TweetHarvest.Proofs.Report.Dumps
import TweetHarvest.Proofs.Report.RoundTrip

/-!
# Documents read again

A document that has been saved is what a reader finds under its path, so what has been said of its
text holds of its file: a report is loaded as it was saved, and a dump is read as it was saved if the
body it came with has left a level of nesting for it.

## Key results

- `Archive.writeJson_read`, `Archive.save_read`: a document is read under the path of its file
- `Archive.report_reread`: a report is loaded as it was saved
- `Archive.dump_reread`: a dump is read as it was saved, or has a level too many
-/

namespace TweetHarvest

namespace Archive

open Json (Value Decoder nestingLimit)
open TweetHarvest.Path (IsName)

/-! ## Files of documents -/

section Files

variable {σ : Type} {fs : FileSystem (StateM σ)} {here : Location} {tree : σ → FileTree}
  (value : Value) (document : String) (s : σ)

/-- A document that has been written is read under its path. -/
theorem writeJson_read (hfs : fs.Keeps here tree) {path : Path}
    (h : ((writeJson fs value path document).run s).1 = .ok ()) :
    (tree ((writeJson fs value path document).run s).2).read here path =
      .ok value.pretty.toUTF8 := by
  obtain ⟨name, -, harrived⟩ := arrived_of_writeJson value path document s hfs h
  obtain ⟨special, hlocate⟩ := harrived.located
  exact FileTree.read_of_locate hlocate harrived.there

/-- A document that has been saved is read under its path. -/
theorem save_read (hfs : fs.Keeps here tree) (dir : Path) (name : String) {path : Path}
    (h : ((save fs value dir name document).run s).1 = .ok path) :
    (tree ((save fs value dir name document).run s).2).read here path =
      .ok value.pretty.toUTF8 := by
  -- The path that is given is the one that was written under
  obtain rfl := save_path dir value name document s h
  rw [run_save] at h ⊢
  generalize (fs.makeDirs dir).run s = made at h ⊢
  rcases made with ⟨_ | ⟨⟩, s₁⟩
  · cases h
  · dsimp only at h ⊢
    obtain ⟨⟨⟩, hwritten, -⟩ := map_eq_ok_iff.1 h
    exact writeJson_read value document s₁ hfs hwritten

end Files

/-! ## Reports -/

/-- A report is parsed from its text as it is, and loaded as it was saved: whatever is in it,
wherever its file is written and however full the disk gets, a write that succeeds leaves a file
that is loaded as this report. -/
theorem report_reread (r : Report) (here : Location) (disk : Disk) :
    parseReport r.toValue.pretty = .ok r ∧
    (∀ path document,
      let written := (writeJson (.ofDisk here) r.toValue path document).run disk
      written.1 = .ok () →
        (loadReport (.ofTree here) path).run written.2.tree = (.ok r, written.2.tree)) ∧
    ∀ dir time path,
      let saved := (saveReport (.ofDisk here) r dir time).run disk
      saved.1 = .ok path →
        (loadReport (.ofTree here) path).run saved.2.tree = (.ok r, saved.2.tree) := by
  have hfs := FileSystem.keeps_ofDisk here
  refine ⟨parseReport_pretty r, ?_, ?_⟩
  · intro path document written h
    exact run_loadReport (writeJson_read r.toValue document disk hfs h)
  · intro dir time path saved h
    exact run_loadReport (save_read r.toValue "report" disk hfs dir _ h)

/-- A report with all that is hard to write: quotes, backslashes, characters below the blank and
beyond sixteen bits, the greatest counts, and a tweet without an identifier and a time. -/
def intricateReport : Report where
  metadata := ⟨"\x7f\u2028é🐦\"\\/\x08\x0c\n\r\t\x00\x1f", "alice", 4294967295, 18446744073709551615⟩
  profile := some ⟨"", "\\u0041", "[\x7b\":,\x7d]", 18446744073709551615, 0, 1, true⟩
  tweets := [⟨none, "𝒯 é 😀", none, 18446744073709551615, 9223372036854775808, 10, "null"⟩,
    ⟨some "", " ", some "\"", 0, 0, 0, ""⟩]

/-- A disk without files and troubles. -/
def emptyDisk : Disk := ⟨.empty, []⟩

/-- Two in the afternoon on the first of August 2024. -/
def afternoon : Instant := ⟨1722520800, 500, by decide, by decide⟩

/-- The report can be written. -/
private theorem written_intricate :
    ((writeJson (.ofDisk []) intricateReport.toValue (.ofText "/r.json") "report").run emptyDisk).1 =
      .ok () := by
  decide +kernel

/-- It can be saved as well. -/
private theorem saved_intricate :
    ((saveReport (.ofDisk []) intricateReport (.ofText "reports") afternoon).run emptyDisk).1 =
      .ok (.ofText "reports/twitter_alice_20240801_140000.json") := by
  decide +kernel

/-- It is loaded from where it has been written and saved. -/
theorem report_reread_intricate :
    let written :=
      (writeJson (.ofDisk []) intricateReport.toValue (.ofText "/r.json") "report").run emptyDisk
    let saved :=
      (saveReport (.ofDisk []) intricateReport (.ofText "reports") afternoon).run emptyDisk
    let path : Path := .ofText "reports/twitter_alice_20240801_140000.json"
    written.1 = .ok () ∧ saved.1 = .ok path ∧
    (loadReport (.ofTree []) (.ofText "/r.json")).run written.2.tree =
      (.ok intricateReport, written.2.tree) ∧
    (loadReport (.ofTree []) path).run saved.2.tree = (.ok intricateReport, saved.2.tree) := by
  intro written saved path
  obtain ⟨-, hwritten, hsaved⟩ := report_reread intricateReport [] emptyDisk
  exact ⟨written_intricate, saved_intricate, hwritten _ _ written_intricate,
    hsaved _ _ _ saved_intricate⟩

/-! ## Dumps -/

/-- The items that the service has answered with are nested as deep as the reader's limit at most.
Their dump is read as it was saved if they are nested less deep than that, and is refused if they are
not: it has one level more than the body it came with.  Doubles are taken to be read from their own
texts. -/
theorem dump_reread {answer : Http.Outcome} {items : List Value}
    (hitems : Client.interpret (Decoder.list Decoder.any) answer = .ok items)
    (hdoubles : ∀ x ∈ (Value.array items).doubles, x.ReadsBack) (dataset username : String)
    (here : Location) (dir : Path) (time : Instant) (disk : Disk) {path : Path}
    (hsaved : ((saveDump (.ofDisk here) ⟨items, dataset⟩ username dir time).run disk).1 = .ok path) :
    (Value.array items).nesting ≤ nestingLimit ∧
    ∃ text : String,
      ((saveDump (.ofDisk here) ⟨items, dataset⟩ username dir time).run disk).2.tree.read here path =
        .ok text.toUTF8 ∧
      Json.decode RawDump.decoder text =
        if (Value.array items).nesting < nestingLimit then .ok ⟨items, dataset⟩
        else .error .malformed := by
  have htidy := Client.tidy_of_interpret hitems
  have hfs := FileSystem.keeps_ofDisk here
  exact ⟨htidy.nesting_le, (RawDump.mk items dataset).toValue.pretty,
    save_read _ "raw dataset dump" disk hfs dir _ hsaved,
    RawDump.decode_pretty htidy.ordered hdoubles⟩

/-- Items of all kinds, three levels deep with their array. -/
def variedItems : List Value :=
  [.object [("a", .array [.number (.float ⟨true, 1, by decide⟩),
      .number (.unsigned 18446744073709551615), .number (.negative ⟨9223372036854775807, by decide⟩)]),
    ("b", .string "\"😀\x00")], .null, .bool true]

/-- The service may answer with these items. -/
private theorem interpret_variedItems :
    Client.interpret (Decoder.list Decoder.any)
      (.response 200 (Value.array variedItems).compact.toUTF8) = .ok variedItems := by
  apply Client.interpret_compact
  · decide +kernel
  · decide +kernel
  · decide +kernel
  · decide +kernel

/-- Their dump can be saved. -/
private theorem saved_variedItems :
    ((saveDump (.ofDisk []) ⟨variedItems, "d"⟩ "alice" (.ofText "reports") afternoon).run
      emptyDisk).1 =
      .ok (.ofText "reports/twitter_alice_20240801_140000_raw.json") := by
  decide +kernel

/-- They are read as they were saved. -/
theorem dump_reread_varied :
    let answer : Http.Outcome := .response 200 (Value.array variedItems).compact.toUTF8
    let saved :=
      (saveDump (.ofDisk []) ⟨variedItems, "d"⟩ "alice" (.ofText "reports") afternoon).run emptyDisk
    let path : Path := .ofText "reports/twitter_alice_20240801_140000_raw.json"
    Client.interpret (Decoder.list Decoder.any) answer = .ok variedItems ∧
    (∀ x ∈ (Value.array variedItems).doubles, x.ReadsBack) ∧ saved.1 = .ok path ∧
    ∃ text : String, saved.2.tree.read [] path = .ok text.toUTF8 ∧
      Json.decode RawDump.decoder text = .ok ⟨variedItems, "d"⟩ := by
  intro answer saved path
  have hdoubles : ∀ x ∈ (Value.array variedItems).doubles, x.ReadsBack := by decide +kernel
  obtain ⟨-, text, hread, hdecode⟩ := dump_reread interpret_variedItems hdoubles "d" "alice" []
    (.ofText "reports") afternoon emptyDisk saved_variedItems
  rw [if_pos (by decide)] at hdecode
  exact ⟨interpret_variedItems, hdoubles, saved_variedItems, text, hread, hdecode⟩

/-- Arrays inside one another, the innermost one without items. -/
def nestedArrays : Nat → Value
  | 0 => .array []
  | n + 1 => .array [nestedArrays n]

/-- The item of an array that is nested as deep as the reader's limit. -/
def deepestItems : List Value := [nestedArrays 125]

/-- The text of that array: all its brackets are opened, and then all are closed. -/
def deepestBody : ByteArray :=
  ⟨(List.replicate 127 (0x5B : UInt8) ++ List.replicate 127 0x5D).toArray⟩

/-- The dump of the deepest items can be saved. -/
private theorem saved_deepestItems :
    ((saveDump (.ofDisk []) ⟨deepestItems, "d"⟩ "alice" (.ofText "reports") afternoon).run
      emptyDisk).1 =
      .ok (.ofText "reports/twitter_alice_20240801_140000_raw.json") := by
  decide +kernel

/-- Arrays nested as deep as the reader's limit are a body that the service may answer with, and
their dump is saved, but the file is refused. -/
theorem dump_of_deepest_refused :
    let saved :=
      (saveDump (.ofDisk []) ⟨deepestItems, "d"⟩ "alice" (.ofText "reports") afternoon).run emptyDisk
    let path : Path := .ofText "reports/twitter_alice_20240801_140000_raw.json"
    Client.interpret (Decoder.list Decoder.any) (.response 200 deepestBody) = .ok deepestItems ∧
    saved.1 = .ok path ∧
    ∃ text : String, saved.2.tree.read [] path = .ok text.toUTF8 ∧
      Json.decode RawDump.decoder text = .error .malformed := by
  intro saved path
  have hordered : (Value.array deepestItems).Ordered := by decide +kernel
  have hdoubles : ∀ x ∈ (Value.array deepestItems).doubles, x.ReadsBack := by decide +kernel
  -- Within the dump the items are a level too deep
  have hrefused := RawDump.decode_pretty (d := ⟨deepestItems, "d"⟩) hordered hdoubles
  rw [if_neg (by decide +kernel)] at hrefused
  have hread := save_read _ "raw dataset dump" emptyDisk (FileSystem.keeps_ofDisk [])
    (.ofText "reports") _
    saved_deepestItems
  exact ⟨Client.interpret_compact hordered hdoubles (by decide +kernel) (by decide +kernel),
    saved_deepestItems, _, hread, hrefused⟩

end Archive

end TweetHarvest
