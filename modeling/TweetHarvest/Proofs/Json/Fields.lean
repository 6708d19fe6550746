import TweetHarvest.Json.Value

/-!
# Sorted fields

Setting fields one after the other leaves them in ascending order of the keys.  Fields that are in
this order already stay as they are, and under each key the last value that it has been set to is
found.

## Key results

- `ascending_sortFields`: sorted fields are in ascending order
- `sortFields_eq_self`: fields in ascending order stay as they are
- `field?_sortFields_eq`, `mem_keys_sortFields`: the last value of a key wins, and no key is lost
- `field?_sortFields`: the value of a key that occurs once
-/

namespace TweetHarvest.Json

/-- The keys come in ascending order, each key once. -/
def Ascending (fields : List (String × Value)) : Prop := fields.Pairwise fun f g => f.1 < g.1

/-- Fields in ascending order have different keys. -/
theorem Ascending.nodup_keys {fields : List (String × Value)} (h : Ascending fields) :
    (fields.map (·.1)).Nodup := by
  rw [List.Nodup, List.pairwise_map]
  refine h.imp fun {f g} hlt heq => ?_
  rw [heq] at hlt
  exact String.lt_irrefl _ hlt

/-- The value of a key that occurs in the first fields is taken from there. -/
theorem field?_append (key : String) (a b : List (String × Value)) :
    field? key (a ++ b) = (field? key a).or (field? key b) := by
  induction a with
  | nil => rfl
  | cons f a ih =>
    obtain ⟨k, v⟩ := f
    rw [List.cons_append, field?, field?]
    split
    · rfl
    · exact ih

/-- Nothing is found under a key exactly if it is not among the keys. -/
theorem field?_eq_none_iff {key : String} {fields : List (String × Value)} :
    field? key fields = none ↔ key ∉ fields.map (·.1) := by
  induction fields with
  | nil => simp [field?]
  | cons f fields ih =>
    obtain ⟨k, v⟩ := f
    rw [field?, List.map_cons, List.mem_cons]
    by_cases hkey : k = key
    · simp [hkey]
    · rw [if_neg hkey, ih, not_or]
      exact ⟨fun h => ⟨Ne.symm hkey, h⟩, fun h => h.2⟩

/-! ## Setting one field -/

section Insertion

variable {key : String} {value : Value} {fields : List (String × Value)}

/-- After a field has been set, the fields are that one and some of those before. -/
theorem mem_insertField {f : String × Value} (h : f ∈ insertField key value fields) :
    f = (key, value) ∨ f ∈ fields := by
  induction fields with
  | nil => exact .inl (List.mem_singleton.1 h)
  | cons head rest ih =>
    obtain ⟨k, v⟩ := head
    simp only [insertField] at h
    -- In the place of the same key, in front of a greater one, or further behind
    split at h
    · exact (List.mem_cons.1 h).imp id (List.mem_cons_of_mem _)
    · split at h
      · exact List.mem_cons.1 h
      · rcases List.mem_cons.1 h with rfl | h
        · exact .inr (List.mem_cons_self ..)
        · exact (ih h).imp id (List.mem_cons_of_mem _)

/-- Setting a field keeps the order of the keys. -/
theorem ascending_insertField (h : Ascending fields) :
    Ascending (insertField key value fields) := by
  induction fields with
  | nil => exact List.pairwise_singleton ..
  | cons head rest ih =>
    obtain ⟨k, v⟩ := head
    obtain ⟨hfirst, hrest⟩ := List.pairwise_cons.1 h
    simp only [insertField]
    split
    · next hkey =>
      subst hkey
      exact List.pairwise_cons.2 ⟨hfirst, hrest⟩
    · next hkey =>
      split
      -- The new key is below the first one, and so below all
      · next hbelow =>
        refine List.pairwise_cons.2 ⟨fun f hf => ?_, h⟩
        rcases List.mem_cons.1 hf with rfl | hf
        · exact hbelow
        · exact String.lt_trans hbelow (hfirst f hf)
      · next hnot =>
        refine List.pairwise_cons.2 ⟨fun f hf => ?_, ih hrest⟩
        rcases mem_insertField hf with rfl | hf
        · exact Std.lt_of_le_of_ne (String.not_lt.1 hnot) (Ne.symm hkey)
        · exact hfirst f hf

/-- A key above all others comes last. -/
theorem insertField_concat (h : ∀ f ∈ fields, f.1 < key) :
    insertField key value fields = fields ++ [(key, value)] := by
  induction fields with
  | nil => rfl
  | cons head rest ih =>
    obtain ⟨k, v⟩ := head
    have hk : k < key := h (k, v) (List.mem_cons_self ..)
    have hne : key ≠ k := by
      rintro rfl
      exact String.lt_irrefl _ hk
    -- The new key is neither that of the first field nor below it
    rw [insertField, if_neg hne, if_neg (String.lt_asymm hk),
      ih fun f hf => h f (List.mem_cons_of_mem _ hf)]
    rfl

end Insertion

/-! ## Setting fields one after the other -/

/-- Sets fields one after the other. -/
def setFields (sorted fields : List (String × Value)) : List (String × Value) :=
  fields.foldl (fun sorted (k, v) => insertField k v sorted) sorted

/-- The first of several fields is set first. -/
theorem setFields_cons (sorted : List (String × Value)) (k : String) (v : Value)
    (fields : List (String × Value)) :
    setFields sorted ((k, v) :: fields) = setFields (insertField k v sorted) fields := rfl

section Setting

variable {sorted fields : List (String × Value)}

/-- Fields stay in ascending order when others are set. -/
theorem ascending_setFields (h : Ascending sorted) : Ascending (setFields sorted fields) := by
  induction fields generalizing sorted with
  | nil => exact h
  | cons f fields ih => exact ih (ascending_insertField h)

/-- After fields have been set, each field is one of them or one of those before. -/
theorem mem_setFields {f : String × Value} (h : f ∈ setFields sorted fields) :
    f ∈ sorted ∨ f ∈ fields := by
  induction fields generalizing sorted with
  | nil => exact .inl h
  | cons g fields ih =>
    rcases ih h with h | h
    · rcases mem_insertField h with rfl | h
      · exact .inr (List.mem_cons_self ..)
      · exact .inl h
    · exact .inr (List.mem_cons_of_mem _ h)

/-- In ascending order, each field is put behind those that have been set before. -/
theorem setFields_eq_append (h : Ascending (sorted ++ fields)) :
    setFields sorted fields = sorted ++ fields := by
  induction fields generalizing sorted with
  | nil => exact (List.append_nil sorted).symm
  | cons f fields ih =>
    obtain ⟨k, v⟩ := f
    -- All that has been set so far comes below the next key
    have hlast : ∀ f ∈ sorted, f.1 < k := fun f hf =>
      (List.pairwise_append.1 h).2.2 f hf (k, v) (List.mem_cons_self ..)
    rw [setFields_cons, insertField_concat hlast, ih, List.append_assoc]
    · rfl
    · simpa using h

/-- The last value that a key is set to wins over the earlier ones. -/
theorem field?_setFields_eq (key : String) : field? key (setFields sorted fields) =
    (field? key fields.reverse).or (field? key sorted) := by
  induction fields generalizing sorted with
  | nil => rfl
  | cons f fields ih =>
    obtain ⟨k, v⟩ := f
    rw [setFields_cons, ih, List.reverse_cons, field?_append, Option.or_assoc]
    congr 1
    -- The first field is the last one to be found in the reversed list
    by_cases hkey : k = key
    · rw [hkey, field?_insertField_self, field?, if_pos rfl, Option.some_or]
    · rw [field?_insertField_of_ne (Ne.symm hkey), field?, if_neg hkey, field?, Option.none_or]

/-- Fields with other keys leave the value of a key. -/
theorem field?_setFields_of_notMem {key : String} (h : key ∉ fields.map (·.1)) :
    field? key (setFields sorted fields) = field? key sorted := by
  induction fields generalizing sorted with
  | nil => rfl
  | cons f fields ih =>
    obtain ⟨k, v⟩ := f
    rw [List.map_cons, List.mem_cons, not_or] at h
    rw [setFields_cons, ih h.2, field?_insertField_of_ne h.1]

/-- A key that is set once has the value that it has been set to. -/
theorem field?_setFields {key : String} {value : Value} (hnodup : (fields.map (·.1)).Nodup)
    (h : (key, value) ∈ fields) : field? key (setFields sorted fields) = some value := by
  induction fields generalizing sorted with
  | nil => exact absurd h List.not_mem_nil
  | cons f fields ih =>
    obtain ⟨k, v⟩ := f
    rw [List.map_cons, List.nodup_cons] at hnodup
    rw [setFields_cons]
    rcases List.mem_cons.1 h with heq | hmem
    -- The field comes first, and no later one has its key
    · cases heq
      rw [field?_setFields_of_notMem hnodup.1, field?_insertField_self]
    · exact ih hnodup.2 hmem

end Setting

/-! ## Sorted fields -/

/-- Sorted fields are in ascending order. -/
theorem ascending_sortFields (fields : List (String × Value)) : Ascending (sortFields fields) :=
  ascending_setFields .nil

/-- Sorting adds no fields. -/
theorem mem_of_mem_sortFields {f : String × Value} {fields : List (String × Value)}
    (h : f ∈ sortFields fields) : f ∈ fields :=
  (mem_setFields h).resolve_left List.not_mem_nil

/-- Fields in ascending order stay as they are. -/
theorem sortFields_eq_self {fields : List (String × Value)} (h : Ascending fields) :
    sortFields fields = fields := setFields_eq_append h

/-- A key has the value of its last field. -/
theorem field?_sortFields_eq (key : String) (fields : List (String × Value)) :
    field? key (sortFields fields) = field? key fields.reverse := by
  have hset : field? key (setFields [] fields) = (field? key fields.reverse).or none :=
    field?_setFields_eq key
  rwa [Option.or_none] at hset

/-- Sorting neither loses nor adds keys. -/
theorem mem_keys_sortFields {key : String} {fields : List (String × Value)} :
    key ∈ (sortFields fields).map (·.1) ↔ key ∈ fields.map (·.1) := by
  have hreverse : key ∈ fields.reverse.map (·.1) ↔ key ∈ fields.map (·.1) := by
    rw [List.map_reverse, List.mem_reverse]
  rw [← Decidable.not_iff_not, ← field?_eq_none_iff, field?_sortFields_eq, field?_eq_none_iff, hreverse]

/-- In ascending order no key comes twice, so the last field of a key is the first one. -/
theorem Ascending.field?_reverse {fields : List (String × Value)} (h : Ascending fields)
    (key : String) : field? key fields.reverse = field? key fields := by
  rw [← field?_sortFields_eq, sortFields_eq_self h]

/-- A key that occurs once has the value of its field. -/
theorem field?_sortFields {key : String} {value : Value} {fields : List (String × Value)}
    (hnodup : (fields.map (·.1)).Nodup) (h : (key, value) ∈ fields) :
    field? key (sortFields fields) = some value := field?_setFields hnodup h

end TweetHarvest.Json
