import Mathlib.Data.List.Nodup
import TweetHarvest.Json.Decoder
import TweetHarvest.Proofs.Outcome

/-!
# What a decoded record was written as

A record that has been decoded was written as an object or as an array, and is built from the parts
of it that it knows: the members with its keys, each of which occurs once at most, or the items in
the order of its fields.  Members with other keys and the order of the members do not matter.

## Key results

- `Node.parts`: the parts of a tree that a record knows
- `record_eq_ok`: a record is built from these parts
- `Row.required_eq_ok`, `Row.defaulted_eq_ok`: what the value of a field was written as
-/

namespace TweetHarvest.Json

/-! ## Known parts -/

/-- The members with known keys. -/
def memberParts (names : List String) (members : List (Except Fault String × Node)) :
    List (String × Node) :=
  members.filterMap fun
    | (.ok key, node) => if key ∈ names then some (key, node) else none
    | (.error _, _) => none

/-- The parts of a tree that a record with these fields knows: the members with these keys, or the
items in this order. -/
def Node.parts (names : List String) : Node → List (String × Node)
  | .object members _ => memberParts names members
  | .array items _ => names.zip items
  | _ => []

section memberParts

variable {names : List String} {key : String}

/-- A member under one of the names is one of the parts. -/
theorem memberParts_cons_of_mem (node : Node) (members : List (Except Fault String × Node))
    (h : key ∈ names) :
    memberParts names ((.ok key, node) :: members) = (key, node) :: memberParts names members :=
  List.filterMap_cons_some (if_pos h)

/-- A member under any other key is skipped. -/
theorem memberParts_cons_of_notMem (node : Node) (members : List (Except Fault String × Node))
    (h : key ∉ names) :
    memberParts names ((.ok key, node) :: members) = memberParts names members :=
  List.filterMap_cons_none (if_neg h)

end memberParts

/-! ## Keys -/

section Keys

variable {β : Type} {l : List (String × β)} {key : String}

/-- A key is not found exactly if it is not among the keys. -/
theorem find?_key_eq_none_iff : l.find? (·.1 == key) = none ↔ key ∉ l.map (·.1) := by
  simp only [List.find?_eq_none, List.mem_map, beq_iff_eq, not_exists, not_and]

/-- A key is found exactly if it is among the keys. -/
theorem any_key_iff : l.any (·.1 == key) = true ↔ key ∈ l.map (·.1) := by
  simp only [List.any_eq_true, List.mem_map, beq_iff_eq]

/-- What is found under a key is an entry with this key. -/
theorem mem_of_find?_key {entry : String × β} (h : l.find? (·.1 == key) = some entry) :
    entry ∈ l ∧ entry.1 = key :=
  ⟨List.mem_of_find?_eq_some h, by simpa using List.find?_some h⟩

end Keys

/-- Items are paired with fields of different names. -/
theorem nodup_keys_zip {names : List String} (items : List Node) (h : names.Nodup) :
    ((names.zip items).map (·.1)).Nodup := by
  have hsublist : ((names.zip items).map (·.1)).Sublist names := by
    induction names generalizing items with
    | nil => exact .slnil
    | cons name names ih =>
      cases items with
      | nil => exact List.nil_sublist _
      | cons item items => exact (ih items (List.nodup_cons.1 h).2).cons_cons name
  exact h.sublist hsublist

/-- Keys stay different when a new one is put behind them. -/
theorem nodup_keys_concat {found : List (String × Node)} {key : String} (node : Node)
    (hfound : (found.map (·.1)).Nodup) (hfresh : key ∉ found.map (·.1)) :
    ((found ++ [(key, node)]).map (·.1)).Nodup := by
  rw [List.map_append, List.nodup_append]
  refine ⟨hfound, List.nodup_singleton _, fun a ha b hb hab => ?_⟩
  rw [hab, List.mem_singleton.1 hb] at ha
  exact hfresh ha

/-! ## Collecting parts -/

/-- Behind what has been found before, the known members are collected, and no key comes twice. -/
theorem collectMembers_eq_ok {type : RowType} {depth : Nat} {found fields : List (String × Node)}
    {members : List (Except Fault String × Node)}
    (h : collectMembers type depth found members = .ok fields) (hfound : (found.map (·.1)).Nodup) :
    fields = found ++ memberParts (type.map (·.1)) members ∧ (fields.map (·.1)).Nodup := by
  induction members generalizing found with
  | nil =>
    cases h
    exact ⟨(List.append_nil _).symm, hfound⟩
  | cons member members ih =>
    obtain ⟨key?, node⟩ := member
    rw [collectMembers] at h
    obtain ⟨key, rfl, hcollect⟩ := bind_eq_ok_iff.1 h
    split at hcollect
    -- A member that is not known is passed over
    · next hnone =>
      obtain ⟨-, -, hrest⟩ := bind_eq_ok_iff.1 hcollect
      rw [memberParts_cons_of_notMem node members (find?_key_eq_none_iff.1 hnone)]
      exact ih hrest hfound
    · next name check hsome =>
      split at hcollect
      · exact nomatch hcollect
      -- A known member has a key that is new
      · next hnew =>
        obtain ⟨-, -, hrest⟩ := bind_eq_ok_iff.1 hcollect
        obtain ⟨hcolumn, hkey⟩ := mem_of_find?_key hsome
        rw [memberParts_cons_of_mem node members (List.mem_map.2 ⟨_, hcolumn, hkey⟩),
          List.append_cons]
        exact ih hrest (nodup_keys_concat node hfound (mt any_key_iff.2 hnew))

/-- The items are collected in the order of the fields. -/
theorem collectItems_eq_ok {type : RowType} {depth : Nat} {items rest : List Node}
    {fields : List (String × Node)} (h : collectItems depth type items = .ok (fields, rest)) :
    fields = (type.map (·.1)).zip items := by
  induction type generalizing items fields with
  | nil =>
    cases h
    rfl
  | cons column type ih =>
    -- Items that are missing at the end leave their fields out
    cases items with
    | nil =>
      cases h
      rfl
    | cons item items =>
      obtain ⟨name, check⟩ := column
      -- The item passes the check of its column, and the other items are collected
      obtain ⟨-, -, h⟩ := bind_eq_ok_iff.1 h
      obtain ⟨⟨others, left⟩, hothers, h⟩ := bind_eq_ok_iff.1 h
      cases h
      rw [ih hothers]
      rfl

/-- A record that has been decoded is built from the parts that it knows. -/
theorem record_eq_ok {α : Type} {type : RowType} {build : Row → Except Fault α} {depth : Nat}
    {node : Node} {a : α} (hnodup : (type.map (·.1)).Nodup)
    (h : record type build depth node = .ok a) :
    ∃ row : Row, build row = .ok a ∧ row.fields = node.parts (type.map (·.1)) ∧
      (row.fields.map (·.1)).Nodup := by
  unfold record at h
  split at h
  · exact nomatch h
  · exact nomatch h
  -- An object may have members that are not among the parts
  · obtain ⟨fields, hfields, hbuild⟩ := bind_eq_ok_iff.1 h
    obtain ⟨-, -, hbuild⟩ := bind_eq_ok_iff.1 hbuild
    obtain ⟨hparts, hkeys⟩ := collectMembers_eq_ok hfields List.nodup_nil
    exact ⟨_, hbuild, hparts, hkeys⟩
  · next items ending depth =>
    obtain ⟨⟨fields, rest⟩, hfields, h⟩ := bind_eq_ok_iff.1 h
    -- Where a short array ends is looked at before the record is built, else afterwards
    have hbuild : (do
        let value ← build ⟨depth, true, fields⟩
        if rest.isEmpty then closeKept ending else .error .malformed
        return value) = .ok a := by
      dsimp only at h
      split at h
      · obtain ⟨-, -, h⟩ := bind_eq_ok_iff.1 h
        exact h
      · exact h
    obtain ⟨value, hvalue, hend⟩ := bind_eq_ok_iff.1 hbuild
    have hvalue' : value = a := by
      dsimp only at hend
      split at hend
      · obtain ⟨-, -, hend⟩ := bind_eq_ok_iff.1 hend
        exact Except.ok.inj hend
      · exact nomatch hend
    have hparts := collectItems_eq_ok hfields
    exact ⟨_, hvalue' ▸ hvalue, hparts, hparts ▸ nodup_keys_zip items hnodup⟩
  · exact nomatch h

/-! ## Fields of a record -/

/-- Only strings are read as strings. -/
theorem Decoder.string_eq_ok_iff {depth : Nat} {node : Node} {s : String} :
    Decoder.string depth node = .ok s ↔ node = .string (.ok s) := by
  cases node <;> simp [Decoder.string]

section Row

variable {α : Type} {d : Decoder α} {row : Row} {name : String} {node : Node}

/-- What may be missing is null, or is read as what it is. -/
theorem Decoder.optional_eq_ok {depth : Nat} {a? : Option α} (h : d.optional depth node = .ok a?) :
    (node = .null ∧ a? = none) ∨ ∃ a, a? = some a ∧ d depth node = .ok a := by
  unfold Decoder.optional at h
  split at h
  · cases h
    exact .inl ⟨rfl, rfl⟩
  · obtain ⟨a, ha, rfl⟩ := map_eq_ok_iff.1 h
    exact .inr ⟨a, rfl, ha⟩

/-- What is found under a name is a field of the row. -/
theorem Row.mem_of_find? (h : row.find? name = some node) : (name, node) ∈ row.fields := by
  obtain ⟨⟨key, found⟩, hfind, rfl⟩ := Option.map_eq_some_iff.1 h
  obtain ⟨hmem, rfl⟩ := mem_of_find?_key hfind
  exact hmem

/-- Under a name that is not found there is no field. -/
theorem Row.notMem_of_find? (h : row.find? name = none) : (name, node) ∉ row.fields := fun hmem =>
  find?_key_eq_none_iff.1 (Option.map_eq_none_iff.1 h) (List.mem_map.2 ⟨_, hmem, rfl⟩)

/-- If the fields have different names, each is found by its name. -/
theorem Row.find?_of_mem (hkeys : (row.fields.map (·.1)).Nodup) (h : (name, node) ∈ row.fields) :
    row.find? name = some node := by
  obtain ⟨depth, positional, fields⟩ := row
  induction fields with
  | nil => exact nomatch h
  | cons field fields ih =>
    obtain ⟨other, tree⟩ := field
    rw [List.map_cons, List.nodup_cons] at hkeys
    rw [Row.find?, List.find?_cons]
    -- The field is the first one, or the first one has another name
    rcases List.mem_cons.1 h with heq | hmem
    · cases heq
      simp
    · have hne : other ≠ name := by
        rintro rfl
        exact hkeys.1 (List.mem_map.2 ⟨_, hmem, rfl⟩)
      rw [beq_eq_false_iff_ne.2 hne]
      exact ih hkeys.2 hmem

/-- A field that must be there was written as a value that is decoded. -/
theorem Row.required_eq_ok {a : α} (h : row.required name d = .ok a) :
    ∃ node, (name, node) ∈ row.fields ∧ d row.depth node = .ok a := by
  unfold Row.required at h
  split at h
  · next node hfind => exact ⟨node, Row.mem_of_find? hfind, h⟩
  · exact nomatch h

/-- A string that is required, and is there, is a field of the row. -/
theorem Row.mem_of_required_string {s : String} (h : row.required name Decoder.string = .ok s) :
    (name, .string (.ok s)) ∈ row.fields := by
  obtain ⟨node, hmem, hnode⟩ := Row.required_eq_ok h
  obtain rfl := Decoder.string_eq_ok_iff.1 hnode
  exact hmem

/-- A field that may be left out was written as a value that is decoded, unless it is left out or
null. -/
theorem Row.defaulted_eq_ok {a? : Option α} (hkeys : (row.fields.map (·.1)).Nodup)
    (h : row.defaulted name d = .ok a?) :
    match a? with
    | some a => ∃ node, (name, node) ∈ row.fields ∧ d row.depth node = .ok a
    | none => ∀ node, (name, node) ∈ row.fields → node = .null := by
  unfold Row.defaulted at h
  split at h
  · next node hfind =>
    -- The field was found: it is null, or it is decoded
    rcases Decoder.optional_eq_ok h with ⟨rfl, rfl⟩ | ⟨a, rfl, ha⟩
    · intro other hmem
      have hother := Row.find?_of_mem hkeys hmem
      rw [hfind] at hother
      exact (Option.some.inj hother).symm
    · exact ⟨node, Row.mem_of_find? hfind, ha⟩
  · next hfind =>
    cases h
    exact fun node hmem => absurd hmem (Row.notMem_of_find? hfind)

end Row

end TweetHarvest.Json
