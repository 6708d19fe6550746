import TweetHarvest.Binary64.Shortest

/-!
# JSON values

Numbers keep the kind in which they were written: integers of 64 bits stay exact, all others are
doubles.  An object is a list of fields.  A printer writes the fields as they stand, so a record
chooses the order of its keys; objects that are read, or built with `Value.sorted`, have their
fields in ascending order of the keys, each key once.

* `Json.Value`        the values
* `Json.insertField`  sets a field in a sorted list of fields
* `Json.Value.sorted` the object with the given fields, the last value of a key winning
-/

namespace TweetHarvest.Json

/-- How many negative integers fit into 64 bits. -/
def Number.negativeCount : Nat := 9223372036854775808

/-- A JSON number. -/
inductive Number where
  /-- An integer from zero on. -/
  | unsigned (n : UInt64)
  /-- The negative integer `-(n + 1)`. -/
  | negative (n : Fin Number.negativeCount)
  /-- A number with a fraction or an exponent, an integer beyond 64 bits, or `-0`. -/
  | float (x : Binary64)
deriving DecidableEq, Repr

/-- A JSON value. -/
inductive Value where
  | null
  | bool (b : Bool)
  | number (n : Number)
  | string (s : String)
  | array (items : List Value)
  | object (fields : List (String × Value))
deriving Repr

/-- The value of a key, the first one where it occurs more than once. -/
def field? (key : String) : List (String × Value) → Option Value
  | [] => none
  | (k, v) :: rest => if k = key then some v else field? key rest

/-- Sets a field in a list that is sorted by key. -/
def insertField (key : String) (value : Value) : List (String × Value) → List (String × Value)
  | [] => [(key, value)]
  | (k, v) :: rest =>
    if key = k then (key, value) :: rest
    else if key < k then (key, value) :: (k, v) :: rest
    else (k, v) :: insertField key value rest

/-- The given fields in ascending order of the keys, the last value of a key winning. -/
def sortFields (fields : List (String × Value)) : List (String × Value) :=
  fields.foldl (fun sorted (k, v) => insertField k v sorted) []

namespace Value

/-- The object with the given fields in ascending order of the keys. -/
def sorted (fields : List (String × Value)) : Value :=
  .object (sortFields fields)

/-- A natural number below `2 ^ 64`. -/
def nat (n : Nat) : Value := .number (.unsigned n.toUInt64)

/-- A text, or null. -/
def optionalString : Option String → Value
  | none => .null
  | some s => .string s

/-- The text of a string value. -/
def string? : Value → Option String
  | .string s => some s
  | _ => none

/-- The truth value of a boolean value. -/
def bool? : Value → Option Bool
  | .bool b => some b
  | _ => none

end Value

/-- A field that has been set is found with its new value. -/
@[simp] theorem field?_insertField_self (key : String) (value : Value)
    (fields : List (String × Value)) :
    field? key (insertField key value fields) = some value := by
  induction fields with
  | nil => simp [insertField, field?]
  | cons head rest ih =>
    obtain ⟨k, v⟩ := head
    simp only [insertField]
    split
    · simp [field?]
    · next different =>
      split
      · simp [field?]
      · simp [field?, Ne.symm different, ih]

/-- Setting a field leaves those with other keys as they are. -/
theorem field?_insertField_of_ne {key other : String} (h : other ≠ key) (value : Value)
    (fields : List (String × Value)) :
    field? other (insertField key value fields) = field? other fields := by
  induction fields with
  | nil => simp [insertField, field?, Ne.symm h]
  | cons head rest ih =>
    obtain ⟨k, v⟩ := head
    simp only [insertField]
    split
    · next same => subst same; simp [field?, Ne.symm h]
    · split
      · simp [field?, Ne.symm h]
      · simp [field?, ih]

end TweetHarvest.Json
