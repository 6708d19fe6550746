import TweetHarvest.Proofs.Json.Fields
import TweetHarvest.Proofs.Json.Records

/-!
# Values read back

A value that has been read has its objects in order and no more levels of nesting than the reader
may enter.  Such a value is read back from its syntax tree whenever the reader may enter its levels,
and refused otherwise: the reader's limit is the only thing that stands between a value and its
text.

## Key results

- `Value.tidy_of_value`: what is known of a value that has been read
- `Value.value_node`: a value is read back if its levels may be entered, and refused otherwise
- `list_any_eq_ok`, `list_any_node`: the same for lists of values
-/

namespace TweetHarvest

/-- The text of a double is read as this double. -/
def Binary64.ReadsBack (x : Binary64) : Prop :=
  (Json.Number.float x).numeral.number? = some (.float x)

instance (x : Binary64) : Decidable x.ReadsBack :=
  inferInstanceAs (Decidable ((Json.Number.float x).numeral.number? = some (.float x)))

namespace Json

/-! ## Measures of a value -/

mutual

/-- How many arrays and objects stand inside one another. -/
def Value.nesting : Value → Nat
  | .null | .bool _ | .number _ | .string _ => 0
  | .array items => itemsNesting items + 1
  | .object fields => fieldsNesting fields + 1

/-- The nesting of the deepest item. -/
def itemsNesting : List Value → Nat
  | [] => 0
  | v :: rest => max v.nesting (itemsNesting rest)

/-- The nesting of the deepest field. -/
def fieldsNesting : List (String × Value) → Nat
  | [] => 0
  | (_, v) :: rest => max v.nesting (fieldsNesting rest)

end

mutual

/-- The doubles in a value. -/
def Value.doubles : Value → List Binary64
  | .number (.float x) => [x]
  | .null | .bool _ | .number _ | .string _ => []
  | .array items => itemsDoubles items
  | .object fields => fieldsDoubles fields

/-- The doubles in items. -/
def itemsDoubles : List Value → List Binary64
  | [] => []
  | v :: rest => v.doubles ++ itemsDoubles rest

/-- The doubles in fields. -/
def fieldsDoubles : List (String × Value) → List Binary64
  | [] => []
  | (_, v) :: rest => v.doubles ++ fieldsDoubles rest

end

mutual

/-- All objects in a value have their fields in ascending order of the keys. -/
def Value.Ordered : Value → Prop
  | .null | .bool _ | .number _ | .string _ => True
  | .array items => ItemsOrdered items
  | .object fields => Ascending fields ∧ FieldsOrdered fields

/-- All objects in items are in order. -/
def ItemsOrdered : List Value → Prop
  | [] => True
  | v :: rest => v.Ordered ∧ ItemsOrdered rest

/-- All objects in the values of fields are in order. -/
def FieldsOrdered : List (String × Value) → Prop
  | [] => True
  | (_, v) :: rest => v.Ordered ∧ FieldsOrdered rest

end

instance (fields : List (String × Value)) : Decidable (Ascending fields) :=
  inferInstanceAs (Decidable (List.Pairwise (fun f g : String × Value => f.1 < g.1) fields))

mutual

/-- Decides whether all objects in a value are in order. -/
def Value.decideOrdered : ∀ v : Value, Decidable v.Ordered
  | .null | .bool _ | .number _ | .string _ => .isTrue trivial
  | .array items => decideItemsOrdered items
  | .object fields => @instDecidableAnd _ _ inferInstance (decideFieldsOrdered fields)

/-- Decides whether all objects in items are in order. -/
def decideItemsOrdered : ∀ items : List Value, Decidable (ItemsOrdered items)
  | [] => .isTrue trivial
  | v :: rest => @instDecidableAnd _ _ v.decideOrdered (decideItemsOrdered rest)

/-- Decides whether all objects in the values of fields are in order. -/
def decideFieldsOrdered : ∀ fields : List (String × Value), Decidable (FieldsOrdered fields)
  | [] => .isTrue trivial
  | (_, v) :: rest => @instDecidableAnd _ _ v.decideOrdered (decideFieldsOrdered rest)

end

instance (v : Value) : Decidable v.Ordered := v.decideOrdered

/-- Fields are no deeper than a bound if none of their values is. -/
theorem fieldsNesting_le_iff {fields : List (String × Value)} {n : Nat} :
    fieldsNesting fields ≤ n ↔ ∀ f ∈ fields, f.2.nesting ≤ n := by
  induction fields with
  | nil => simp [fieldsNesting]
  | cons f fields ih =>
    obtain ⟨k, v⟩ := f
    rw [fieldsNesting, Nat.max_le, ih, List.forall_mem_cons]

/-- Fields are in order if all their values are. -/
theorem fieldsOrdered_iff {fields : List (String × Value)} :
    FieldsOrdered fields ↔ ∀ f ∈ fields, f.2.Ordered := by
  induction fields with
  | nil => simp [FieldsOrdered]
  | cons f fields ih =>
    obtain ⟨k, v⟩ := f
    rw [FieldsOrdered, ih, List.forall_mem_cons]

/-! ## Values that have been read -/

/-- A value of the given nesting at most, with its objects in order. -/
structure Value.Tidy (depth : Nat) (v : Value) : Prop where
  ordered : v.Ordered
  nesting_le : v.nesting ≤ depth

mutual

/-- What has been read is tidy: objects are sorted, and every level has been counted. -/
theorem Value.tidy_of_value {depth : Nat} {v : Value} : ∀ {node : Node},
    node.value depth = .ok v → v.Tidy depth
  | .null, h | .bool _, h => by
    cases h
    exact ⟨trivial, Nat.zero_le _⟩
  | .number n, h => by
    obtain ⟨m, -, rfl⟩ := map_eq_ok_iff.1 h
    exact ⟨trivial, Nat.zero_le _⟩
  | .string content, h => by
    obtain ⟨s, -, rfl⟩ := map_eq_ok_iff.1 h
    exact ⟨trivial, Nat.zero_le _⟩
  | .broken b, h => nomatch h
  | .array items ending, h => by
    cases depth with
    | zero => exact nomatch h
    | succ depth =>
      obtain ⟨values, hvalues, h⟩ := bind_eq_ok_iff.1 h
      obtain ⟨-, -, h⟩ := bind_eq_ok_iff.1 h
      cases h
      obtain ⟨hordered, hnesting⟩ := tidy_of_itemValues hvalues
      exact ⟨hordered, Nat.succ_le_succ hnesting⟩
  | .object members ending, h => by
    cases depth with
    | zero => exact nomatch h
    | succ depth =>
      obtain ⟨fields, hfields, h⟩ := bind_eq_ok_iff.1 h
      obtain ⟨-, -, h⟩ := bind_eq_ok_iff.1 h
      cases h
      -- Sorting adds no fields, so each of them is tidy
      have htidy := tidy_of_memberValues hfields
      have hordered : FieldsOrdered (sortFields fields) :=
        fieldsOrdered_iff.2 fun f hf => (htidy f (mem_of_mem_sortFields hf)).ordered
      have hnesting : fieldsNesting (sortFields fields) ≤ depth :=
        fieldsNesting_le_iff.2 fun f hf => (htidy f (mem_of_mem_sortFields hf)).nesting_le
      exact ⟨⟨ascending_sortFields fields, hordered⟩, Nat.succ_le_succ hnesting⟩

/-- The same for the items of an array. -/
theorem tidy_of_itemValues {depth : Nat} {values : List Value} : ∀ {items : List Node},
    itemValues depth items = .ok values → ItemsOrdered values ∧ itemsNesting values ≤ depth
  | [], h => by
    cases h
    exact ⟨trivial, Nat.zero_le _⟩
  | item :: items, h => by
    obtain ⟨v, hv, h⟩ := bind_eq_ok_iff.1 h
    obtain ⟨rest, hrest, h⟩ := bind_eq_ok_iff.1 h
    cases h
    -- The deepest item decides on the nesting
    obtain ⟨hordered, hnesting⟩ := tidy_of_itemValues hrest
    have htidy := Value.tidy_of_value hv
    exact ⟨⟨htidy.ordered, hordered⟩, Nat.max_le.2 ⟨htidy.nesting_le, hnesting⟩⟩

/-- The same for the members of an object. -/
theorem tidy_of_memberValues {depth : Nat} {fields : List (String × Value)} :
    ∀ {members : List (Except Fault String × Node)},
      memberValues depth members = .ok fields → ∀ f ∈ fields, f.2.Tidy depth
  | [], h => by
    -- The key has no part in how deep the value is
    cases h
    exact fun _ hf => nomatch hf
  | (key, node) :: members, h => by
    obtain ⟨k, -, h⟩ := bind_eq_ok_iff.1 h
    obtain ⟨v, hv, h⟩ := bind_eq_ok_iff.1 h
    obtain ⟨rest, hrest, h⟩ := bind_eq_ok_iff.1 h
    cases h
    exact List.forall_mem_cons.2 ⟨Value.tidy_of_value hv, tidy_of_memberValues hrest⟩

end

/-! ## Reading values back -/

/-- A printed negative integer stands for itself. -/
theorem number?_negative (n : Fin Number.negativeCount) :
    (Number.negative n).numeral.number? = some (.negative n) := by
  have hvalue : (Decimal.digits (n.val + 1)).foldl Decimal.extend 0 = n.val + 1 :=
    Decimal.value_digits (n.val + 1)
  have hfits : n.val + 1 < UInt64.size := by
    have hn : n.val < 9223372036854775808 := n.isLt
    exact Nat.lt_of_le_of_lt (Nat.succ_le_of_lt hn) (by decide)
  have haccumulate : accumulate 0 (Decimal.digits (n.val + 1)) = (n.val + 1, []) := by
    rw [accumulate_eq (by rw [hvalue]; exact hfits), hvalue]
  -- The digits are those of a number that is one above the count
  simp [Number.numeral, Numeral.number?, haccumulate]

/-- A printed number stands for itself if the doubles do. -/
theorem Number.decode_numeral (n : Number) (h : ∀ x ∈ (Value.number n).doubles, x.ReadsBack) :
    n.numeral.decode = .ok n := by
  have hnumber : n.numeral.number? = some n := by
    cases n with
    | unsigned n => exact number?_unsigned n
    | negative n => exact number?_negative n
    | float x => exact h x (List.mem_singleton.2 rfl)
  rw [Numeral.decode, hnumber]

/-- What a reader that may enter so many levels makes of something. -/
def withinLimit {α : Type} (depth nesting : Nat) (a : α) : Except Fault α :=
  if nesting ≤ depth then .ok a else .error .malformed

/-- Of two things read one after the other, both have to be within the limit. -/
theorem withinLimit_bind {α β γ : Type} (depth n m : Nat) (a : α) (b : β) (f : α → β → γ) :
    (do
      let a ← withinLimit depth n a
      let b ← withinLimit depth m b
      return f a b) = withinLimit depth (max n m) (f a b) := by
  unfold withinLimit
  -- The first that is too deep fails first, and both fail alike, so only the maximum counts
  by_cases hn : n ≤ depth
  · by_cases hm : m ≤ depth
    · rw [if_pos hn, if_pos hm, if_pos (Nat.max_le.2 ⟨hn, hm⟩)]
      rfl
    · rw [if_pos hn, if_neg hm, if_neg fun h => hm (Nat.max_le.1 h).2]
      rfl
  · rw [if_neg hn, if_neg fun h => hn (Nat.max_le.1 h).1]
    rfl

/-- A level more on both sides. -/
theorem withinLimit_succ {α β : Type} (depth n : Nat) (a : α) (f : α → β) :
    (do
      let a ← withinLimit depth n a
      closeKept none
      return f a) = withinLimit (depth + 1) (n + 1) (f a) := by
  unfold withinLimit
  by_cases hn : n ≤ depth
  · rw [if_pos hn, if_pos (Nat.succ_le_succ hn)]
    rfl
  · rw [if_neg hn, if_neg fun h => hn (Nat.le_of_succ_le_succ h)]
    rfl

/-- Nothing fits where no level may be entered. -/
theorem withinLimit_zero {α : Type} (n : Nat) (a : α) :
    withinLimit 0 (n + 1) a = .error .malformed := if_neg (Nat.not_succ_le_zero n)

mutual

/-- A value in order is read back from its syntax tree if its levels may be entered. -/
theorem Value.value_node (depth : Nat) : ∀ v : Value, v.Ordered → (∀ x ∈ v.doubles, x.ReadsBack) →
    v.node.value depth = withinLimit depth v.nesting v
  | .null, _, _ | .bool _, _, _ | .string _, _, _ => (if_pos (Nat.zero_le depth)).symm
  | .number n, _, hdoubles => by
    show n.numeral.decode.map Value.number = _
    rw [n.decode_numeral hdoubles]
    exact (if_pos (Nat.zero_le depth)).symm
  | .array items, hordered, hdoubles => by
    cases depth with
    | zero => exact (withinLimit_zero _ _).symm
    | succ depth =>
      show (do
        let values ← itemValues depth (itemNodes items)
        closeKept none
        return Value.array values) = _
      rw [itemValues_itemNodes depth items hordered hdoubles, withinLimit_succ]
      rfl
  | .object fields, hordered, hdoubles => by
    cases depth with
    | zero => exact (withinLimit_zero _ _).symm
    | succ depth =>
      show (do
        let fields ← memberValues depth (fieldNodes fields)
        closeKept none
        return Value.sorted fields) = _
      -- The fields have been in order before they are sorted again
      rw [memberValues_fieldNodes depth fields hordered.2 hdoubles, withinLimit_succ, Value.sorted,
        sortFields_eq_self hordered.1]
      rfl

/-- Items in order are read back from their trees if they are within the limit. -/
theorem itemValues_itemNodes (depth : Nat) : ∀ items : List Value, ItemsOrdered items →
    (∀ x ∈ itemsDoubles items, x.ReadsBack) →
    itemValues depth (itemNodes items) = withinLimit depth (itemsNesting items) items
  | [], _, _ => (if_pos (Nat.zero_le depth)).symm
  | v :: items, hordered, hdoubles => by
    have hv := v.value_node depth hordered.1 fun x hx => hdoubles x (List.mem_append_left _ hx)
    have hitems := itemValues_itemNodes depth items hordered.2 fun x hx =>
      hdoubles x (List.mem_append_right _ hx)
    rw [itemNodes, itemValues, hv, hitems]
    exact withinLimit_bind ..

/-- Fields in order are read back from their trees if they are within the limit. -/
theorem memberValues_fieldNodes (depth : Nat) : ∀ fields : List (String × Value),
    FieldsOrdered fields → (∀ x ∈ fieldsDoubles fields, x.ReadsBack) →
    memberValues depth (fieldNodes fields) = withinLimit depth (fieldsNesting fields) fields
  | [], _, _ => (if_pos (Nat.zero_le depth)).symm
  | (k, v) :: fields, hordered, hdoubles => by
    have hv := v.value_node depth hordered.1 fun x hx => hdoubles x (List.mem_append_left _ hx)
    have hfields := memberValues_fieldNodes depth fields hordered.2 fun x hx =>
      hdoubles x (List.mem_append_right _ hx)
    rw [fieldNodes, memberValues, hv, hfields]
    exact withinLimit_bind ..

end

/-! ## Lists of values -/

/-- Decoding the items of a list is reading them as values. -/
theorem mapM_any (depth : Nat) (items : List Node) :
    items.mapM (Decoder.any depth) = itemValues depth items := by
  induction items with
  | nil => rfl
  | cons item items ih =>
    rw [List.mapM_cons, ih, itemValues]
    rfl

/-- A list of values is an array that is read as a value. -/
theorem list_any_eq_ok {depth : Nat} {node : Node} {items : List Value}
    (h : Decoder.list Decoder.any depth node = .ok items) : (Value.array items).Tidy depth := by
  cases node with
  | array nodes ending =>
    cases depth with
    | zero => exact nomatch h
    | succ depth =>
      obtain ⟨values, hvalues, h⟩ := bind_eq_ok_iff.1 h
      obtain ⟨-, -, h⟩ := bind_eq_ok_iff.1 h
      cases h
      -- From here on it is the same as for a value
      rw [mapM_any] at hvalues
      obtain ⟨hordered, hnesting⟩ := tidy_of_itemValues hvalues
      exact ⟨hordered, Nat.succ_le_succ hnesting⟩
  | _ => cases depth <;> exact nomatch h

/-- A list of values in order is read back if the levels of its array may be entered. -/
theorem list_any_node (depth : Nat) {items : List Value} (hordered : (Value.array items).Ordered)
    (hdoubles : ∀ x ∈ (Value.array items).doubles, x.ReadsBack) :
    Decoder.list Decoder.any depth (Value.array items).node =
      withinLimit depth (Value.array items).nesting items := by
  cases depth with
  -- No array may be entered at depth zero, and every array has one level at least
  | zero => exact (withinLimit_zero _ _).symm
  | succ depth =>
    show (do
      let values ← (itemNodes items).mapM (Decoder.any depth)
      closeKept none
      return values) = _
    rw [mapM_any, itemValues_itemNodes depth items hordered hdoubles]
    exact withinLimit_succ depth _ items id

end Json

end TweetHarvest
