import TweetHarvest.Json.Decoder
import TweetHarvest.Proofs.Json.Parts
import TweetHarvest.Proofs.Json.Reading
import TweetHarvest.Timeline.Tweet

/-!
# Decoding printed values

A decoder that is the inverse of an encoder gives back what has been encoded, provided that it may
enter as many levels of nesting as the value has.  Records whose fields are printed in order are
decoded field by field.

## Key results

- `Decodes`: a decoder takes a value for what it encodes
- `decodes_word`, `decodes_halfWord`, `decodes_list`, `decodes_record`: the decoders
- `Decodes.decode_pretty`: the pretty text of a value is decoded
-/

namespace TweetHarvest.Json

/-- The decoder takes the value for `a` if it may enter that many levels of nesting. -/
def Decodes (d : Decoder α) (levels : Nat) (v : Value) (a : α) : Prop :=
  ∀ depth, d (depth + levels) v.node = .ok a

section Decodes

variable {α : Type} {d : Decoder α} {levels : Nat} {v : Value} {a : α}

/-- More levels of nesting do no harm. -/
theorem Decodes.mono {more : Nat} (h : Decodes d levels v a) (hle : levels ≤ more) :
    Decodes d more v a := by
  intro depth
  have hdepth : depth + more = depth + (more - levels) + levels := by omega
  rw [hdepth]
  exact h _

/-- A value that is decoded passes the check for its faults. -/
theorem Decodes.check (h : Decodes d levels v a) : Decodes d.check levels v () := fun depth => by
  rw [Decoder.check, h depth]
  rfl

/-- A text that is read as the tree of a value is decoded. -/
theorem Decodes.decode_of_read (h : Decodes d levels v a) (hlevels : levels ≤ nestingLimit)
    {text : String} (hread : Node.ofChars text.toList = (v.node, [])) : decode d text = .ok a := by
  have hvalue := h (nestingLimit - levels)
  rw [Nat.sub_add_cancel hlevels] at hvalue
  simp only [decode, decodeChars, hread, hvalue]
  rfl

/-- The pretty text of a value is decoded. -/
theorem Decodes.decode_pretty (h : Decodes d levels v a) (hlevels : levels ≤ nestingLimit) :
    decode d v.pretty = .ok a := h.decode_of_read hlevels (Node.ofChars_pretty v)

/-- The compact text of a value is decoded. -/
theorem Decodes.decode_compact (h : Decodes d levels v a) (hlevels : levels ≤ nestingLimit) :
    decode d v.compact = .ok a := h.decode_of_read hlevels (Node.ofChars_compact v)

/-- A text that is decoded starts with a value that is. -/
theorem decodeChars_eq_ok {s : List Char} (h : decodeChars d s = .ok a) :
    d nestingLimit (Node.ofChars s).1 = .ok a := by
  unfold decodeChars at h
  generalize Node.ofChars s = read at h
  obtain ⟨node, rest⟩ := read
  obtain ⟨value, hvalue, h⟩ := bind_eq_ok_iff.1 h
  split at h
  · cases h
    exact hvalue
  · exact nomatch h

/-! ## Scalars -/

/-- A string is read as it is. -/
theorem decodes_string (levels : Nat) (s : String) : Decodes Decoder.string levels (.string s) s :=
  fun _ => rfl

/-- A boolean is read as it is. -/
theorem decodes_bool (levels : Nat) (b : Bool) : Decodes Decoder.bool levels (.bool b) b := fun _ => rfl

/-- A number does not get smaller by more digits. -/
private theorem le_foldl_extend (total : Nat) (ds : List Char) :
    total ≤ ds.foldl Decimal.extend total := by
  induction ds generalizing total with
  | nil => exact Nat.le_refl total
  | cons c cs ih =>
    have hextend : total ≤ Decimal.extend total c := by
      rw [Decimal.extend]
      omega
    exact Nat.le_trans hextend (ih _)

/-- Digits fit as long as their number does. -/
theorem accumulate_eq {total : Nat} {ds : List Char}
    (h : ds.foldl Decimal.extend total < UInt64.size) :
    accumulate total ds = (ds.foldl Decimal.extend total, []) := by
  induction ds generalizing total with
  | nil => rfl
  | cons c cs ih =>
    have hnext : Decimal.extend total c < UInt64.size :=
      Nat.lt_of_le_of_lt (le_foldl_extend _ cs) h
    rw [accumulate, if_pos hnext, ih h]
    rfl

/-- A printed word stands for itself. -/
theorem number?_unsigned (n : UInt64) :
    (Number.unsigned n).numeral.number? = some (.unsigned n) := by
  have hvalue : (Decimal.digits n.toNat).foldl Decimal.extend 0 = n.toNat :=
    Decimal.value_digits n.toNat
  have haccumulate : accumulate 0 (Decimal.digits n.toNat) = (n.toNat, []) := by
    rw [accumulate_eq (by rw [hvalue]; exact n.toNat_lt), hvalue]
  simp only [Number.numeral, Numeral.number?, haccumulate]
  simp

/-- A count of sixty-four bits is read as it is. -/
theorem decodes_word (levels : Nat) (n : UInt64) : Decodes Decoder.word levels (.count n) n := by
  intro depth
  show (Numeral.decode (Number.unsigned n).numeral >>= _) = _
  rw [Numeral.decode, number?_unsigned]
  rfl

/-- A count of thirty-two bits is read as it is. -/
theorem decodes_halfWord (levels : Nat) (n : UInt32) :
    Decodes Decoder.halfWord levels (.nat n.toNat) n := by
  intro depth
  have hlt : n.toNat < UInt32.size := n.toNat_lt
  have hword : n.toNat.toUInt64.toNat = n.toNat := by
    apply Nat.mod_eq_of_lt
    exact Nat.lt_trans hlt (by decide)
  -- Nothing is lost on the way through sixty-four bits
  have hfits : n.toNat.toUInt64.toUInt32 = n := by
    apply UInt32.toNat_inj.1
    rw [UInt64.toNat_toUInt32, hword]
    exact Nat.mod_eq_of_lt hlt
  have hread := decodes_word levels n.toNat.toUInt64 depth
  show (Decoder.word _ (Value.count n.toNat.toUInt64).node >>= _) = _
  rw [hread]
  show (if n.toNat.toUInt64.toNat < UInt32.size then _ else _) = _
  rw [hword, if_pos hlt, hfits]

/-! ## Options and lists -/

/-- Null is read as what is missing. -/
theorem decodes_null : Decodes (Decoder.optional d) levels .null none := fun _ => rfl

/-- A value that is not null is decoded as itself. -/
theorem Decodes.optional (h : Decodes d levels v a) (hnull : v ≠ .null) :
    Decodes (Decoder.optional d) levels v (some a) := by
  intro depth
  have hnode : v.node ≠ .null := by
    cases v with
    | null => exact absurd rfl hnull
    | _ => simp [Value.node]
  -- The first case of `Decoder.optional` is for null
  have hoptional : Decoder.optional d (depth + levels) v.node =
      (d (depth + levels) v.node).map some := by
    unfold Decoder.optional
    split
    · next hv => exact absurd hv hnode
    · rfl
  rw [hoptional, h depth]
  rfl

/-- A string that may be missing is read as it is. -/
theorem decodes_optionalString (levels : Nat) (s : Option String) :
    Decodes (Decoder.optional Decoder.string) levels (.optionalString s) s := by
  cases s with
  | none => exact decodes_null
  | some s => exact (decodes_string levels s).optional nofun

/-- A list is read item by item. -/
theorem decodes_list {encode : α → Value} (h : ∀ a, Decodes d levels (encode a) a)
    (as : List α) : Decodes (Decoder.list d) (levels + 1) (.array (as.map encode)) as := by
  intro depth
  -- The items are decoded one after the other, all at the same depth
  have hitems : (itemNodes (as.map encode)).mapM (d (depth + levels)) = .ok as := by
    induction as with
    | nil => rfl
    | cons a as ih =>
      rw [List.map_cons, itemNodes, List.mapM_cons, h a depth, ih]
      rfl
  show ((itemNodes (as.map encode)).mapM (d (depth + levels)) >>= _) = _
  rw [hitems]
  rfl

end Decodes

/-! ## Records -/

/-- The fields are those of a record, in order, and pass their checks. -/
inductive Fits (levels : Nat) : RowType → List (String × Value) → Prop
  | nil : Fits levels [] []
  | cons {name : String} {check : Nat → Node → Except Fault Unit} {v : Value} {type : RowType}
      {fields : List (String × Value)} (hcheck : Decodes check levels v ())
      (h : Fits levels type fields) : Fits levels ((name, check) :: type) ((name, v) :: fields)

/-- The trees of fields. -/
def fieldTrees (fields : List (String × Value)) : List (String × Node) :=
  fields.map fun (name, v) => (name, v.node)

/-- The induction is on the fields that are still to come; those before them have been found. -/
private theorem collectMembers_fits {levels depth : Nat} (before : RowType) {type : RowType}
    {found : List (String × Node)} {fields : List (String × Value)}
    (hnodup : ((before ++ type).map (·.1)).Nodup) (hfound : found.map (·.1) = before.map (·.1))
    (h : Fits levels type fields) :
    collectMembers (before ++ type) (depth + levels) found (fieldNodes fields) =
      .ok (found ++ fieldTrees fields) := by
  induction h generalizing before found with
  | nil => rw [fieldNodes, collectMembers, fieldTrees, List.map_nil, List.append_nil]
  | @cons name check v type fields hcheck h ih =>
    -- The names before this one are others, so the field is new and found by its name
    have hfresh : name ∉ before.map (·.1) := by
      rw [List.map_append, List.map_cons] at hnodup
      intro hmem
      exact (List.nodup_append.1 hnodup).2.2 name hmem name (List.mem_cons_self ..) rfl
    have hfind : (before ++ (name, check) :: type).find? (·.1 == name) = some (name, check) := by
      rw [List.find?_append, find?_key_eq_none_iff.2 hfresh, List.find?_cons_of_pos (by simp)]
      rfl
    have hnew : found.any (·.1 == name) = false := by
      rw [Bool.eq_false_iff, Ne, any_key_iff, hfound]
      exact hfresh
    have happend : before ++ [(name, check)] ++ type = before ++ (name, check) :: type := by simp
    have hrest : collectMembers (before ++ [(name, check)] ++ type) (depth + levels)
        (found ++ [(name, v.node)]) (fieldNodes fields) =
          .ok (found ++ [(name, v.node)] ++ fieldTrees fields) :=
      ih (before ++ [(name, check)]) (by simpa using hnodup) (by simp [hfound])
    rw [happend] at hrest
    rw [fieldNodes, collectMembers]
    simp only [bind, Except.bind, hfind, hnew, Bool.false_eq_true, if_false, hcheck depth, hrest]
    simp [fieldTrees]

/-- The row has the trees of the fields, and enough levels of nesting left for them. -/
structure Row.Holds (row : Row) (levels : Nat) (fields : List (String × Value)) : Prop where
  deep : levels ≤ row.depth
  found : ∀ name v, (name, v) ∈ fields → row.find? name = some v.node

section Holds

variable {α : Type} {d : Decoder α} {row : Row} {levels : Nat} {fields : List (String × Value)}
  {v : Value}

/-- A value that is decoded has enough levels of nesting in the row. -/
theorem Row.Holds.decoded (h : row.Holds levels fields) {a : α} (hd : Decodes d levels v a) :
    d row.depth v.node = .ok a := by
  have hread := hd (row.depth - levels)
  rwa [Nat.sub_add_cancel h.deep] at hread

/-- A field that must be there is decoded. -/
theorem Row.Holds.required (h : row.Holds levels fields) (name : String) (hmem : (name, v) ∈ fields)
    {a : α} (hd : Decodes d levels v a) : row.required name d = .ok a := by
  rw [Row.required, h.found name v hmem]
  exact h.decoded hd

/-- A field that may be null is decoded. -/
theorem Row.Holds.optional (h : row.Holds levels fields) (name : String) (hmem : (name, v) ∈ fields)
    {a : Option α} (hd : Decodes (Decoder.optional d) levels v a) : row.optional name d = .ok a := by
  rw [Row.optional, h.found name v hmem]
  exact h.decoded hd

/-- A field that may be null or left out is decoded if it is there. -/
theorem Row.Holds.defaulted (h : row.Holds levels fields) (name : String)
    (hmem : (name, v) ∈ fields) {a : Option α} (hd : Decodes (Decoder.optional d) levels v a) :
    row.defaulted name d = .ok a := by
  rw [Row.defaulted, h.found name v hmem]
  exact h.decoded hd

end Holds

/-- Fields that fit a type have its names, in this order. -/
theorem Fits.names_eq {levels : Nat} {type : RowType} {fields : List (String × Value)}
    (h : Fits levels type fields) : fields.map (·.1) = type.map (·.1) := by
  induction h with
  | nil => rfl
  | cons _ _ ih => rw [List.map_cons, List.map_cons, ih]

/-- A record is built from its fields if they are printed in order. -/
theorem decodes_record {α : Type} {type : RowType} {build : Row → Except Fault α} {levels : Nat}
    {fields : List (String × Value)} {a : α} (hnodup : (type.map (·.1)).Nodup)
    (h : Fits levels type fields)
    (hbuild : ∀ row : Row, row.Holds levels fields → build row = .ok a) :
    Decodes (record type build) (levels + 1) (.object fields) a := by
  intro depth
  -- The members come in the order of the columns, and each passes its check
  have hcollect : collectMembers type (depth + levels) [] (fieldNodes fields) =
      .ok (fieldTrees fields) := collectMembers_fits [] hnodup rfl h
  have hkeys : ((fieldTrees fields).map (·.1)).Nodup := by
    rw [fieldTrees, List.map_map]
    rwa [← h.names_eq] at hnodup
  show (collectMembers type (depth + levels) [] (fieldNodes fields) >>= _) = _
  rw [hcollect]
  -- Different names make the lookup by name give back each field
  refine hbuild _ ⟨Nat.le_add_left .., fun name v hmem => Row.find?_of_mem hkeys ?_⟩
  exact List.mem_map.2 ⟨_, hmem, rfl⟩

end TweetHarvest.Json
