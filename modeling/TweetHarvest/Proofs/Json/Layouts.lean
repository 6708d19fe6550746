import TweetHarvest.Proofs.Json.Strings

/-!
# Layouts of JSON text

The compact and the pretty layout differ only in the blanks between the tokens.  Here they are two
cases of one printer, which is given the blanks.

## Key results

- `Value.compactChars_eq`, `Value.prettyChars_eq`: the two layouts as cases of one printer
-/

namespace TweetHarvest.Json

/-- The blanks of a layout: those in front of a member at some level of nesting or of the bracket
that closes the level, and those behind a colon. -/
structure Layout where
  gap : Nat → List Char
  colon : List Char
  isGap_gap : ∀ depth, ∀ c ∈ gap depth, isGap c = true
  isGap_colon : ∀ c ∈ colon, isGap c = true

/-- The layout without blanks. -/
def Layout.compact : Layout := ⟨fun _ => [], [], by simp, by simp⟩

/-- The layout with a line for every member. -/
def Layout.pretty : Layout where
  gap := newline
  colon := [' ']
  isGap_gap := by
    intro depth c hc
    rcases List.mem_cons.1 hc with rfl | hc
    · rfl
    · obtain rfl := List.eq_of_mem_replicate hc
      rfl
  isGap_colon := by
    intro c hc
    obtain rfl := List.mem_singleton.1 hc
    rfl

mutual

/-- The text of a value that stands at nesting level `depth`. -/
def Value.spell (y : Layout) (depth : Nat) : Value → List Char
  | .null => ['n', 'u', 'l', 'l']
  | .bool b => boolChars b
  | .number n => n.chars
  | .string s => quote s
  | .array [] => ['[', ']']
  | .array (v :: rest) =>
    '[' :: spellItems y (depth + 1) (v :: rest) ++ y.gap depth ++ [']']
  | .object [] => ['\x7b', '\x7d']
  | .object (f :: rest) =>
    '\x7b' :: spellFields y (depth + 1) (f :: rest) ++ y.gap depth ++ ['\x7d']

/-- The items of an array with commas in between. -/
def spellItems (y : Layout) (depth : Nat) : List Value → List Char
  | [] => []
  | [v] => y.gap depth ++ v.spell y depth
  | v :: rest => y.gap depth ++ v.spell y depth ++ ',' :: spellItems y depth rest

/-- The fields of an object with commas in between. -/
def spellFields (y : Layout) (depth : Nat) : List (String × Value) → List Char
  | [] => []
  | [(k, v)] => y.gap depth ++ quote k ++ ':' :: y.colon ++ v.spell y depth
  | (k, v) :: rest =>
    y.gap depth ++ quote k ++ ':' :: y.colon ++ v.spell y depth ++ ',' :: spellFields y depth rest

end

mutual

/-- The pretty layout puts every member on a line of its own. -/
theorem Value.prettyChars_eq (depth : Nat) : ∀ v : Value,
    v.prettyChars depth = v.spell .pretty depth
  | .null | .bool _ | .number _ | .string _ | .array [] | .object [] => rfl
  | .array (v :: rest) => by
    rw [Value.prettyChars, Value.spell, prettyItems_eq (depth + 1) (v :: rest)]
    rfl
  | .object (f :: rest) => by
    rw [Value.prettyChars, Value.spell, prettyFields_eq (depth + 1) (f :: rest)]
    rfl

/-- The indented text of items is their text in the layout with line breaks. -/
private theorem prettyItems_eq (depth : Nat) : ∀ items : List Value,
    prettyItems depth items = spellItems .pretty depth items
  | [] => rfl
  | [v] => by
    rw [prettyItems, spellItems, v.prettyChars_eq depth]
    rfl
  -- The comma is printed only in front of another item, hence the case of one alone
  | v :: w :: rest => by
    rw [prettyItems, spellItems, v.prettyChars_eq depth, prettyItems_eq depth (w :: rest)]
    · rfl
    · simp
    · simp

/-- The indented text of fields is their text in the layout with line breaks. -/
private theorem prettyFields_eq (depth : Nat) : ∀ fields : List (String × Value),
    prettyFields depth fields = spellFields .pretty depth fields
  | [] => rfl
  | [(k, v)] => by
    rw [prettyFields, spellFields, v.prettyChars_eq depth]
    simp [Layout.pretty]
  | (k, v) :: f :: rest => by
    rw [prettyFields, spellFields, v.prettyChars_eq depth, prettyFields_eq depth (f :: rest)]
    · simp [Layout.pretty]
    · simp
    · simp

end

mutual

/-- The compact layout is the one without blanks. -/
theorem Value.compactChars_eq (depth : Nat) : ∀ v : Value,
    v.compactChars = v.spell .compact depth
  | .null | .bool _ | .number _ | .string _ | .array [] | .object [] => rfl
  | .array (v :: rest) => by
    rw [Value.compactChars, Value.spell, compactItems_eq (depth + 1) (v :: rest)]
    simp [Layout.compact]
  | .object (f :: rest) => by
    rw [Value.compactChars, Value.spell, compactFields_eq (depth + 1) (f :: rest)]
    simp [Layout.compact]

/-- The compact text of items is their text in the layout without blanks, at any depth. -/
private theorem compactItems_eq (depth : Nat) : ∀ items : List Value,
    compactItems items = spellItems .compact depth items
  | [] => rfl
  | [v] => by
    rw [compactItems, spellItems, v.compactChars_eq depth]
    rfl
  | v :: w :: rest => by
    rw [compactItems, spellItems, v.compactChars_eq depth, compactItems_eq depth (w :: rest)]
    · rfl
    · simp
    · simp

/-- The compact text of fields is their text in the layout without blanks, at any depth. -/
private theorem compactFields_eq (depth : Nat) : ∀ fields : List (String × Value),
    compactFields fields = spellFields .compact depth fields
  | [] => rfl
  | [(k, v)] => by
    rw [compactFields, spellFields, v.compactChars_eq depth]
    simp [Layout.compact]
  | (k, v) :: f :: rest => by
    rw [compactFields, spellFields, v.compactChars_eq depth, compactFields_eq depth (f :: rest)]
    · simp [Layout.compact]
    · simp
    · simp

end

end TweetHarvest.Json
