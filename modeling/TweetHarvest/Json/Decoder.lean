import TweetHarvest.Json.Node

/-!
# Decoding syntax trees

A decoder turns a tree into a value of a Lean type or names the first fault in text order.  It is
told how many levels of nesting it may still enter; parts that are passed over have no such limit.
A record may be written as an object or as an array of its fields in order: keys that the record
does not know are passed over, a known key may not occur twice.

* `Json.Decoder`          the type, with decoders for strings, words, options and lists
* `Json.Node.value`       any value, objects sorted by key
* `Json.record`           records, given the fields with a check for each
* `Json.decode`           a whole text
-/

namespace TweetHarvest.Json

/-- Turns a tree into a value, given how many levels of nesting may be entered. -/
abbrev Decoder (α : Type) := Nat → Node → Except Fault α

/-- How many levels of arrays and objects a text may have. -/
def nestingLimit : Nat := 127

/-- The fault at the end of a container that is kept. -/
def closeKept (ending : Option Break) : Except Fault Unit :=
  match ending with
  | none => .ok ()
  | some b => .error b.kept

mutual

/-- Passes over a value; only breaks are faults. -/
def Node.skip : Node → Except Fault Unit
  | .null | .bool _ | .number _ | .string _ => .ok ()
  | .broken b => .error b.skipped
  | .array items ending => do
    skipItems items
    match ending with
    | none => .ok ()
    | some b => .error b.skipped
  | .object members ending => do
    skipMembers members
    match ending with
    | none => .ok ()
    | some b => .error b.skipped

/-- Passes over the items of an array. -/
def skipItems : List Node → Except Fault Unit
  | [] => .ok ()
  | item :: rest => do
    item.skip
    skipItems rest

/-- Passes over the members of an object. -/
def skipMembers : List (Except Fault String × Node) → Except Fault Unit
  | [] => .ok ()
  | (_, node) :: rest => do
    node.skip
    skipMembers rest

end

/-- The number of a numeral. -/
def Numeral.decode (n : Numeral) : Except Fault Number :=
  match n.number? with
  | some number => .ok number
  | none => .error .malformed

mutual

/-- Any value; the fields of objects come out sorted by key, the last value of a key winning. -/
def Node.value (depth : Nat) : Node → Except Fault Value
  | .null => .ok .null
  | .bool b => .ok (.bool b)
  | .number n => n.decode.map .number
  | .string content => content.map .string
  | .broken b => .error b.kept
  | .array items ending =>
    match depth with
    -- Too deep a level is refused before it is entered
    | 0 => .error .malformed
    | depth + 1 => do
      let values ← itemValues depth items
      closeKept ending
      return .array values
  | .object members ending =>
    match depth with
    | 0 => .error .malformed
    | depth + 1 => do
      let fields ← memberValues depth members
      closeKept ending
      return .sorted fields

/-- The values of the items of an array. -/
def itemValues (depth : Nat) : List Node → Except Fault (List Value)
  | [] => .ok []
  | item :: rest => do
    let value ← item.value depth
    let values ← itemValues depth rest
    return value :: values

/-- The keys and values of an object in text order. -/
def memberValues (depth : Nat) :
    List (Except Fault String × Node) → Except Fault (List (String × Value))
  | [] => .ok []
  | (key, node) :: rest => do
    let key ← key
    let value ← node.value depth
    let fields ← memberValues depth rest
    return (key, value) :: fields

end

/-- The fault of a value of the wrong kind: a scalar is read first, and its own faults win. -/
def Node.mismatch : Node → Fault
  | .number n => match n.number? with
    | some _ => .mismatched
    | none => .malformed
  | .string (.error f) => f
  | .broken b => b.kept
  | _ => .mismatched

namespace Decoder

/-- Any value. -/
def any : Decoder Value := fun depth node => node.value depth

/-- A string. -/
def string : Decoder String := fun _ node =>
  match node with
  | .string content => content
  | other => .error other.mismatch

/-- A truth value. -/
def bool : Decoder Bool := fun _ node =>
  match node with
  | .bool b => .ok b
  | other => .error other.mismatch

/-- An integer from zero to below `2 ^ 64`. -/
def word : Decoder UInt64 := fun _ node =>
  match node with
  | .number n => do
    match ← n.decode with
    -- A double is no integer here, even where it has no fraction
    | .unsigned k => .ok k
    | _ => .error .mismatched
  | other => .error other.mismatch

/-- An integer from zero to below `2 ^ 32`. -/
def halfWord : Decoder UInt32 := fun depth node => do
  let k ← word depth node
  if k.toNat < UInt32.size then .ok k.toUInt32 else .error .mismatched

/-- A value or null. -/
def optional (d : Decoder α) : Decoder (Option α) := fun depth node =>
  match node with
  | .null => .ok none
  | other => (d depth other).map some

/-- An array of values. -/
def list (d : Decoder α) : Decoder (List α) := fun depth node =>
  match node, depth with
  | .array _ _, 0 => .error .malformed
  | .array items ending, depth + 1 => do
    let values ← items.mapM (d depth)
    closeKept ending
    return values
  | other, _ => .error other.mismatch

/-- Reads a value only for its faults. -/
def check (d : Decoder α) : Nat → Node → Except Fault Unit := fun depth node =>
  (d depth node).map fun _ => ()

end Decoder

/-- The parts of a record that have been found. -/
structure Row where
  /-- The levels of nesting that its fields may enter. -/
  depth : Nat
  /-- Whether the record was written as an array. -/
  positional : Bool
  fields : List (String × Node)

/-- The known fields of a record, in order, each with a check of its value. -/
abbrev RowType := List (String × (Nat → Node → Except Fault Unit))

/-- The tree of a field. -/
def Row.find? (row : Row) (name : String) : Option Node :=
  (row.fields.find? (·.1 == name)).map (·.2)

/-- A field that must be there. -/
def Row.required (row : Row) (name : String) (d : Decoder α) : Except Fault α :=
  match row.find? name with
  | some node => d row.depth node
  | none => .error .mismatched

/-- A field that may be null, and may be left out of an object. -/
def Row.optional (row : Row) (name : String) (d : Decoder α) : Except Fault (Option α) :=
  match row.find? name with
  | some node => d.optional row.depth node
  -- In an array there has to be an item for the field
  | none => if row.positional then .error .mismatched else .ok none

/-- A field that may be null and may be left out in either form. -/
def Row.defaulted (row : Row) (name : String) (d : Decoder α) : Except Fault (Option α) :=
  match row.find? name with
  | some node => d.optional row.depth node
  | none => .ok none

/-- Collects the known members of an object, checking each as it comes. -/
def collectMembers (type : RowType) (depth : Nat) (found : List (String × Node)) :
    List (Except Fault String × Node) → Except Fault (List (String × Node))
  | [] => .ok found
  | (key, node) :: rest => do
    let key ← key
    match type.find? (·.1 == key) with
    | none =>
      -- Unknown members are passed over, but their text is read
      node.skip
      collectMembers type depth found rest
    | some (_, check) =>
      if found.any (·.1 == key) then .error .mismatched
      else
        check depth node
        collectMembers type depth (found ++ [(key, node)]) rest

/-- Pairs the fields with the items of an array, checking each as it comes, and returns the items
that are left over. -/
def collectItems (depth : Nat) :
    RowType → List Node → Except Fault (List (String × Node) × List Node)
  | [], items => .ok ([], items)
  | _, [] => .ok ([], [])
  | (name, check) :: type, item :: items => do
    check depth item
    let (fields, rest) ← collectItems depth type items
    return ((name, item) :: fields, rest)

/-- A record with the given fields.  Faults are reported in text order: those of the fields found,
then missing fields, and last those of the end of the text of the record. -/
def record (type : RowType) (build : Row → Except Fault α) : Decoder α := fun depth node =>
  match node, depth with
  | .object _ _, 0 | .array _ _, 0 => .error .malformed
  | .object members ending, depth + 1 => do
    let fields ← collectMembers type depth [] members
    closeKept ending
    build ⟨depth, false, fields⟩
  | .array items ending, depth + 1 => do
    let (fields, rest) ← collectItems depth type items
    -- Where items are missing, the break that ended them comes first
    if fields.length < type.length then closeKept ending
    let value ← build ⟨depth, true, fields⟩
    -- Too many items are a fault of the text
    if rest.isEmpty then closeKept ending else .error .malformed
    return value
  | other, _ => .error other.mismatch

/-- Decodes a whole text: nothing but blanks may follow the value. -/
def decodeChars (d : Decoder α) (s : List Char) : Except Fault α := do
  let (node, rest) := Node.ofChars s
  let value ← d nestingLimit node
  if (skipGap rest).isEmpty then .ok value else .error .malformed

/-- Decodes a whole text. -/
def decode (d : Decoder α) (text : String) : Except Fault α :=
  decodeChars d text.toList

end TweetHarvest.Json
