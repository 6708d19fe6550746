import TweetHarvest.Proofs.Json.Layouts
import TweetHarvest.Proofs.Json.Numbers

/-!
# Reading printed JSON

The reader takes the text of a value, in any layout, for the syntax tree of that value, and stops at
its end.

## Key results

- `Value.read_spell`: the text of a value is read as its syntax tree
- `Node.ofChars_compact`, `Node.ofChars_pretty`: the same for the two printers
-/

namespace TweetHarvest.Json

/-! ## Blanks -/

/-- A gap is skipped, and so is what follows of it. -/
theorem skipGap_append {gap s : List Char} (h : ∀ c ∈ gap, isGap c = true) :
    skipGap (gap ++ s) = skipGap s := by
  induction gap with
  | nil => rfl
  | cons c cs ih =>
    rw [List.cons_append, skipGap, List.dropWhile_cons, if_pos (h c (List.mem_cons_self ..))]
    exact ih fun d hd => h d (List.mem_cons_of_mem _ hd)

/-- Nothing is skipped in front of a character that belongs to no gap. -/
theorem skipGap_cons {c : Char} {s : List Char} (h : isGap c = false) : skipGap (c :: s) = c :: s := by
  rw [skipGap, List.dropWhile_cons, h]
  rfl

/-- A gap is skipped as a whole. -/
@[simp] theorem skipGap_skipGap (s : List Char) : skipGap (skipGap s) = skipGap s := by
  induction s with
  | nil => rfl
  | cons c cs ih =>
    by_cases h : isGap c = true
    · have hskip : skipGap (c :: cs) = skipGap cs := by
        rw [skipGap, List.dropWhile_cons, if_pos h]
        rfl
      rw [hskip, ih]
    · rw [skipGap_cons (by simpa using h), skipGap_cons (by simpa using h)]

/-- A gap in front of a value does not matter. -/
theorem read_skipGap (fuel : Nat) (s : List Char) :
    Node.read fuel (skipGap s) = Node.read fuel s := by
  rw [Node.read.eq_def, Node.read.eq_def fuel s, skipGap_skipGap]

/-- A gap in front of the items does not matter. -/
theorem readItems_skipGap (fuel : Nat) (s : List Char) :
    readItems fuel (skipGap s) = readItems fuel s := by
  cases fuel with
  | zero => rfl
  | succ fuel => rw [readItems, readItems, read_skipGap]

/-- A gap in front of the members does not matter. -/
theorem readMembers_skipGap (fuel : Nat) (s : List Char) :
    readMembers fuel (skipGap s) = readMembers fuel s := by
  rw [readMembers.eq_def, readMembers.eq_def fuel s, skipGap_skipGap]

/-! ## Numbers -/

/-- Blanks do not belong to a number. -/
theorem ends_append {gap rest : List Char} (hgap : ∀ c ∈ gap, isGap c = true) (h : Ends rest) :
    Ends (gap ++ rest) := by
  cases gap with
  | nil => exact h
  | cons c cs =>
    apply ends_cons
    have hc := hgap c (List.mem_cons_self ..)
    simp only [isGap, Bool.or_eq_true, decide_eq_true_eq] at hc
    rcases hc with ((rfl | rfl) | rfl) | rfl <;> decide

/-- A number that can be read starts with a digit or a sign. -/
theorem head_of_readNumber {s : List Char} {result : Numeral × List Char}
    (h : readNumber s = .ok result) :
    ∃ c cs, s = c :: cs ∧ (c = '-' ∨ c.isDigit = true) := by
  -- After the sign there has to be a digit
  have hwhole : ∀ {negative s result}, readNumeral negative s = .ok result →
      ∃ c cs, s = c :: cs ∧ c.isDigit = true := by
    intro negative s result h
    obtain ⟨⟨ds, rest⟩, hwhole, -⟩ := bind_eq_ok_iff.1 h
    cases s with
    | nil => exact nomatch hwhole
    | cons c cs =>
      refine ⟨c, cs, rfl, ?_⟩
      by_cases hc : c.isDigit = true
      · exact hc
      · simp [readWhole, spanDigits, hc] at hwhole
  unfold readNumber at h
  split at h
  · exact ⟨_, _, rfl, .inl rfl⟩
  · obtain ⟨c, cs, hs, hc⟩ := hwhole h
    exact ⟨c, cs, hs, .inr hc⟩

/-- Reading a value that starts like a number is reading a number. -/
theorem read_of_readNumber (fuel : Nat) {s rest : List Char} {m : Numeral}
    (h : readNumber s = .ok (m, rest)) : Node.read (fuel + 1) s = (.number m, rest) := by
  obtain ⟨c, cs, rfl, hc⟩ := head_of_readNumber h
  rcases hc with rfl | hc
  · rw [Node.read.eq_def, skipGap_cons rfl]
    simp only [readNumber] at h
    simp [h, numberNode]
  -- A digit comes first, so that no other case of the reader applies
  · have hne : ∀ d : Char, d.isDigit = false → c ≠ d := by
      rintro d hd rfl
      rw [hd] at hc
      cases hc
    have hgap : isGap c = false := by
      simp [isGap, hne ' ' rfl, hne '\n' rfl, hne '\t' rfl, hne '\r' rfl]
    have hread : readNumber (c :: cs) = readNumeral false (c :: cs) := by
      rw [readNumber]
      exact fun _ heq => hne '-' rfl (List.cons.inj heq).1
    rw [Node.read.eq_def, skipGap_cons hgap]
    simp [hne '"' rfl, hne '[' rfl, hne '\x7b' rfl, hne 'n' rfl, hne 't' rfl, hne 'f' rfl,
      hne '-' rfl, hc, ← hread, h, numberNode]

/-! ## Trees of values -/

mutual

/-- The syntax tree of a value. -/
def Value.node : Value → Node
  | .null => .null
  | .bool b => .bool b
  | .number n => .number n.numeral
  | .string s => .string (.ok s)
  | .array items => .array (itemNodes items) none
  | .object fields => .object (fieldNodes fields) none

/-- The syntax trees of items. -/
def itemNodes : List Value → List Node
  | [] => []
  | v :: rest => v.node :: itemNodes rest

/-- The syntax trees of fields. -/
def fieldNodes : List (String × Value) → List (Except Fault String × Node)
  | [] => []
  | (k, v) :: rest => (.ok k, v.node) :: fieldNodes rest

end

mutual

/-- How many steps down the reader takes in a value. -/
def Value.weight : Value → Nat
  | .null | .bool _ | .number _ | .string _ => 1
  | .array items => 1 + itemsWeight items
  | .object fields => 1 + fieldsWeight fields

/-- How many steps down the reader takes in items. -/
def itemsWeight : List Value → Nat
  | [] => 0
  | v :: rest => 1 + v.weight + itemsWeight rest

/-- How many steps down the reader takes in fields. -/
def fieldsWeight : List (String × Value) → Nat
  | [] => 0
  | (_, v) :: rest => 1 + v.weight + fieldsWeight rest

end

/-- What follows an item or a field does not belong to a number. -/
private theorem ends_comma (rest : List Char) : Ends (',' :: rest) := ends_cons (by decide)

/-- The end of an array does not belong to a number. -/
private theorem ends_bracket (rest : List Char) : Ends (']' :: rest) := ends_cons (by decide)

/-- The end of an object does not belong to a number. -/
private theorem ends_brace (rest : List Char) : Ends ('\x7d' :: rest) := ends_cons (by decide)

/-- The text of a value starts neither with a blank nor with a closing bracket. -/
theorem Value.head_spell (y : Layout) (depth : Nat) (v : Value) :
    ∃ c cs, v.spell y depth = c :: cs ∧ isGap c = false ∧ c ≠ ']' := by
  cases v with
  | null => exact ⟨_, _, rfl, rfl, by decide⟩
  | bool b => cases b <;> exact ⟨_, _, rfl, rfl, by decide⟩
  | number n =>
    -- A number starts with its sign or a digit
    have hread := n.read_chars ends_nil
    rw [List.append_nil] at hread
    obtain ⟨c, cs, hchars, hc⟩ := head_of_readNumber hread
    refine ⟨c, cs, hchars, ?_, ?_⟩
    · rcases hc with rfl | hc
      · rfl
      · by_cases hgap : isGap c = true
        · simp only [isGap, Bool.or_eq_true, decide_eq_true_eq] at hgap
          rcases hgap with ((rfl | rfl) | rfl) | rfl <;> exact nomatch hc
        · simpa using hgap
    · rintro rfl
      exact absurd hc (by decide)
  | string s => exact ⟨_, _, rfl, rfl, by decide⟩
  | array items => cases items <;> exact ⟨_, _, rfl, rfl, by decide⟩
  | object fields => cases fields <;> exact ⟨_, _, rfl, rfl, by decide⟩

/-- Items start with the text of the first one. -/
private theorem head_spellItems (y : Layout) (depth : Nat) (v : Value) (items : List Value)
    (rest : List Char) :
    ∃ c cs, skipGap (spellItems y depth (v :: items) ++ rest) = c :: cs ∧ c ≠ ']' := by
  obtain ⟨c, cs, hspell, hgap, hc⟩ := v.head_spell y depth
  -- A first item has a comma behind it only when another follows; what follows plays no part
  obtain ⟨tail, htail⟩ : ∃ tail, spellItems y depth (v :: items) =
      y.gap depth ++ (v.spell y depth ++ tail) := by
    cases items with
    | nil => exact ⟨[], by simp [spellItems]⟩
    | cons w items => exact ⟨',' :: spellItems y depth (w :: items), by simp [spellItems]⟩
  refine ⟨c, cs ++ tail ++ rest, ?_, hc⟩
  rw [htail, List.append_assoc, skipGap_append (y.isGap_gap depth), hspell, List.cons_append,
    List.cons_append, skipGap_cons hgap]

/-- Fields start with the quote of the first key. -/
private theorem head_spellFields (y : Layout) (depth : Nat) (f : String × Value)
    (fields : List (String × Value)) (rest : List Char) :
    ∃ cs, skipGap (spellFields y depth (f :: fields) ++ rest) = '"' :: cs := by
  obtain ⟨k, v⟩ := f
  obtain ⟨tail, htail⟩ : ∃ tail, spellFields y depth ((k, v) :: fields) =
      y.gap depth ++ '"' :: tail := by
    cases fields with
    | nil => exact ⟨_, by simp only [spellFields, quote, List.append_assoc, List.cons_append]; rfl⟩
    | cons f fields => exact ⟨_, by
        simp only [spellFields, quote, List.append_assoc, List.cons_append]; rfl⟩
  exact ⟨tail ++ rest, by
    rw [htail, List.append_assoc, skipGap_append (y.isGap_gap depth), List.cons_append,
      skipGap_cons rfl]⟩

/-- A field is read up to the end of its value. -/
private theorem readMembers_field (y : Layout) (depth fuel : Nat) (k : String) {v : Value}
    {after : List Char}
    (hread : Node.read fuel (v.spell y depth ++ after) = (v.node, after)) :
    readMembers (fuel + 1)
        (y.gap depth ++ (quote k ++ ':' :: (y.colon ++ (v.spell y depth ++ after)))) =
      match skipGap after with
      | [] => ([(.ok k, v.node)], some (.both .truncated), [])
      | '\x7d' :: rest => ([(.ok k, v.node)], none, rest)
      | ',' :: rest =>
        let (members, ending, rest) := readMembers fuel rest
        ((.ok k, v.node) :: members, ending, rest)
      | _ => ([(.ok k, v.node)], some (.both .malformed), []) := by
  -- The key, the colon and the value are read one after the other
  have hquote : quote k ++ ':' :: (y.colon ++ (v.spell y depth ++ after)) =
      '"' :: (k.toList.flatMap escape ++ '"' :: (':' :: (y.colon ++ (v.spell y depth ++ after)))) := by
    simp [quote]
  rw [hquote, readMembers.eq_def, skipGap_append (y.isGap_gap depth), skipGap_cons rfl]
  simp only [readString_quote, skipGap_cons (show isGap ':' = false from rfl)]
  rewrite [← read_skipGap, skipGap_append y.isGap_colon, read_skipGap, hread]
  rfl

/-- An array that is not closed at once has items. -/
private theorem read_array (fuel : Nat) {s cs : List Char} {c : Char} (hs : skipGap s = c :: cs)
    (hc : c ≠ ']') {items : List Node} {rest : List Char}
    (h : readItems fuel s = (items, none, rest)) :
    Node.read (fuel + 1) ('[' :: s) = (.array items none, rest) := by
  rw [← readItems_skipGap, hs] at h
  rw [Node.read.eq_def, skipGap_cons rfl]
  simp [hs, hc, h]

/-- An object that is not closed at once has members. -/
private theorem read_object (fuel : Nat) {s cs : List Char} (hs : skipGap s = '"' :: cs)
    {members : List (Except Fault String × Node)} {rest : List Char}
    (h : readMembers fuel s = (members, none, rest)) :
    Node.read (fuel + 1) ('\x7b' :: s) = (.object members none, rest) := by
  rw [← readMembers_skipGap, hs] at h
  rw [Node.read.eq_def, skipGap_cons rfl]
  simp [hs, h]

mutual

/-- The text of a value is read as its syntax tree. -/
theorem Value.read_spell (y : Layout) (depth fuel : Nat) (rest : List Char) (hends : Ends rest) :
    ∀ v : Value, v.weight ≤ fuel → Node.read fuel (v.spell y depth ++ rest) =
      (v.node, rest)
  | .null, hfuel => by
    obtain ⟨fuel, rfl⟩ := Nat.exists_eq_add_of_le' hfuel
    rfl
  | .bool true, hfuel => by
    obtain ⟨fuel, rfl⟩ := Nat.exists_eq_add_of_le' hfuel
    rfl
  | .bool false, hfuel => by
    obtain ⟨fuel, rfl⟩ := Nat.exists_eq_add_of_le' hfuel
    rfl
  | .number n, hfuel => by
    obtain ⟨fuel, rfl⟩ := Nat.exists_eq_add_of_le' hfuel
    exact read_of_readNumber fuel (n.read_chars hends)
  | .string s, hfuel => by
    obtain ⟨fuel, rfl⟩ := Nat.exists_eq_add_of_le' hfuel
    show Node.read (fuel + 1) ('"' :: (s.toList.flatMap escape ++ ['"'] ++ rest)) = _
    rw [Node.read.eq_def, skipGap_cons rfl, List.append_assoc]
    simp only [List.singleton_append, readString_quote, if_true]
    rfl
  | .array [], hfuel => by
    obtain ⟨fuel, rfl⟩ := Nat.exists_eq_add_of_le' hfuel
    rfl
  | .array (v :: items), hfuel => by
    -- One step of the fuel is for the bracket, the rest for the items
    have hpos : 1 ≤ fuel := Nat.le_trans (Nat.le_add_right ..) hfuel
    obtain ⟨fuel, rfl⟩ := Nat.exists_eq_add_of_le' hpos
    have hitems := readItems_spell y (depth + 1) fuel (y.gap depth) rest (y.isGap_gap depth)
      (v :: items) (List.cons_ne_nil v items) (by simp only [Value.weight] at hfuel; omega)
    obtain ⟨c, cs, hhead, hc⟩ := head_spellItems y (depth + 1) v items (y.gap depth ++ ']' :: rest)
    have htext : (Value.array (v :: items)).spell y depth ++ rest =
        '[' :: (spellItems y (depth + 1) (v :: items) ++ (y.gap depth ++ ']' :: rest)) := by
      simp [Value.spell]
    rw [htext]
    exact read_array fuel hhead hc hitems
  | .object [], hfuel => by
    obtain ⟨fuel, rfl⟩ := Nat.exists_eq_add_of_le' hfuel
    rfl
  | .object (f :: fields), hfuel => by
    have hpos : 1 ≤ fuel := Nat.le_trans (Nat.le_add_right ..) hfuel
    obtain ⟨fuel, rfl⟩ := Nat.exists_eq_add_of_le' hpos
    have hfields := readMembers_spell y (depth + 1) fuel (y.gap depth) rest (y.isGap_gap depth)
      (f :: fields) (List.cons_ne_nil f fields) (by simp only [Value.weight] at hfuel; omega)
    obtain ⟨cs, hhead⟩ := head_spellFields y (depth + 1) f fields (y.gap depth ++ '\x7d' :: rest)
    have htext : (Value.object (f :: fields)).spell y depth ++ rest =
        '\x7b' :: (spellFields y (depth + 1) (f :: fields) ++ (y.gap depth ++ '\x7d' :: rest)) := by
      simp [Value.spell]
    rw [htext]
    exact read_object fuel hhead hfields

/-- The texts of items are read as their syntax trees. -/
private theorem readItems_spell (y : Layout) (depth fuel : Nat) (gap rest : List Char)
    (hgap : ∀ c ∈ gap, isGap c = true) : ∀ items : List Value, items ≠ [] →
    itemsWeight items ≤ fuel →
    readItems fuel (spellItems y depth items ++ (gap ++ ']' :: rest)) =
      (itemNodes items, none, rest)
  | [], hne, _ => absurd rfl hne
  | [v], _, hfuel => by
    have hpos : 1 ≤ fuel := Nat.le_trans (by simp only [itemsWeight]; omega) hfuel
    obtain ⟨fuel, rfl⟩ := Nat.exists_eq_add_of_le' hpos
    -- The last item is followed by the gap and the bracket
    have hread := v.read_spell y depth fuel (gap ++ ']' :: rest)
      (ends_append hgap (ends_bracket rest)) (by simp only [itemsWeight] at hfuel; omega)
    rw [readItems, spellItems, ← read_skipGap, List.append_assoc,
      skipGap_append (y.isGap_gap depth), read_skipGap, hread]
    simp only [skipGap_append hgap, skipGap_cons (show isGap ']' = false from rfl)]
    rfl
  | v :: w :: items, _, hfuel => by
    have hpos : 1 ≤ fuel := Nat.le_trans (by simp only [itemsWeight]; omega) hfuel
    obtain ⟨fuel, rfl⟩ := Nat.exists_eq_add_of_le' hpos
    have hread := v.read_spell y depth fuel
      (',' :: (spellItems y depth (w :: items) ++ (gap ++ ']' :: rest))) (ends_comma _)
      (by simp only [itemsWeight] at hfuel; omega)
    have hitems := readItems_spell y depth fuel gap rest hgap (w :: items)
      (List.cons_ne_nil w items) (by simp only [itemsWeight] at hfuel ⊢; omega)
    rw [readItems, spellItems, ← read_skipGap, List.append_assoc, List.append_assoc,
      skipGap_append (y.isGap_gap depth), read_skipGap, List.cons_append, hread]
    · simp only [skipGap_cons (show isGap ',' = false from rfl), hitems]
      rfl
    · simp

/-- The texts of fields are read as their keys and syntax trees. -/
private theorem readMembers_spell (y : Layout) (depth fuel : Nat) (gap rest : List Char)
    (hgap : ∀ c ∈ gap, isGap c = true) : ∀ fields : List (String × Value), fields ≠ [] →
    fieldsWeight fields ≤ fuel →
    readMembers fuel (spellFields y depth fields ++ (gap ++ '\x7d' :: rest)) =
      (fieldNodes fields, none, rest)
  | [], hne, _ => absurd rfl hne
  -- The last field: the gap and the closing brace stand behind its value
  | [(k, v)], _, hfuel => by
    have hpos : 1 ≤ fuel := Nat.le_trans (by simp only [fieldsWeight]; omega) hfuel
    obtain ⟨fuel, rfl⟩ := Nat.exists_eq_add_of_le' hpos
    have hread := v.read_spell y depth fuel (gap ++ '\x7d' :: rest)
      (ends_append hgap (ends_brace rest)) (by simp only [fieldsWeight] at hfuel; omega)
    have htext : spellFields y depth [(k, v)] ++ (gap ++ '\x7d' :: rest) =
        y.gap depth ++ (quote k ++ ':' :: (y.colon ++ (v.spell y depth ++
          (gap ++ '\x7d' :: rest)))) := by
      simp [spellFields]
    rw [htext, readMembers_field y depth fuel k hread, skipGap_append hgap, skipGap_cons rfl]
    rfl
  -- The value is followed by a comma, which ends a number as well as a gap does
  | (k, v) :: f :: fields, _, hfuel => by
    have hpos : 1 ≤ fuel := Nat.le_trans (by simp only [fieldsWeight]; omega) hfuel
    obtain ⟨fuel, rfl⟩ := Nat.exists_eq_add_of_le' hpos
    have hread := v.read_spell y depth fuel
      (',' :: (spellFields y depth (f :: fields) ++ (gap ++ '\x7d' :: rest))) (ends_comma _)
      (by simp only [fieldsWeight] at hfuel; omega)
    have hfields := readMembers_spell y depth fuel gap rest hgap (f :: fields)
      (List.cons_ne_nil f fields) (by obtain ⟨_, _⟩ := f; simp only [fieldsWeight] at hfuel ⊢; omega)
    have htext : spellFields y depth ((k, v) :: f :: fields) ++ (gap ++ '\x7d' :: rest) =
        y.gap depth ++ (quote k ++ ':' :: (y.colon ++ (v.spell y depth ++
          (',' :: (spellFields y depth (f :: fields) ++ (gap ++ '\x7d' :: rest)))))) := by
      simp [spellFields]
    rw [htext, readMembers_field y depth fuel k hread, skipGap_cons rfl]
    simp only [hfields]
    rfl

end

/-! ## Whole texts -/

mutual

/-- The reader takes at most two steps down for each character. -/
theorem Value.weight_le (y : Layout) (depth : Nat) : ∀ v : Value,
    v.weight ≤ 2 * (v.spell y depth).length
  | .null => by simp [Value.weight, Value.spell]
  | .bool b => by cases b <;> simp [Value.weight, Value.spell, boolChars]
  | .number n => by
    -- The text of a number is not empty
    obtain ⟨c, cs, hspell, -⟩ := Value.head_spell y depth (.number n)
    rw [hspell, Value.weight, List.length_cons]
    omega
  | .string s => by
    simp only [Value.weight, Value.spell, quote, List.length_append, List.length_cons]
    omega
  | .array [] => by
    simp only [Value.weight, itemsWeight, Value.spell, List.length_cons]
    omega
  | .array (v :: items) => by
    -- The two brackets pay for the step into the array
    have hitems := itemsWeight_le y (depth + 1) (v :: items)
    simp only [Value.weight, Value.spell, List.length_append, List.length_cons]
    omega
  | .object [] => by
    simp only [Value.weight, fieldsWeight, Value.spell, List.length_cons]
    omega
  | .object (f :: fields) => by
    have hfields := fieldsWeight_le y (depth + 1) (f :: fields)
    simp only [Value.weight, Value.spell, List.length_append, List.length_cons]
    omega

/-- The items of an array need no more fuel than twice the length of their text and one. -/
private theorem itemsWeight_le (y : Layout) (depth : Nat) : ∀ items : List Value,
    itemsWeight items ≤ 2 * (spellItems y depth items).length + 1
  | [] => by simp [itemsWeight]
  | [v] => by
    have hv := v.weight_le y depth
    simp only [itemsWeight, spellItems, List.length_append]
    omega
  | v :: w :: items => by
    have hv := v.weight_le y depth
    have hitems := itemsWeight_le y depth (w :: items)
    rw [itemsWeight, spellItems]
    · simp only [List.length_append, List.length_cons]
      omega
    · simp

/-- The fields of an object need no more fuel than twice the length of their text and one. -/
private theorem fieldsWeight_le (y : Layout) (depth : Nat) : ∀ fields : List (String × Value),
    fieldsWeight fields ≤ 2 * (spellFields y depth fields).length + 1
  | [] => by simp [fieldsWeight]
  | [(k, v)] => by
    have hv := v.weight_le y depth
    simp only [fieldsWeight, spellFields, List.length_append, List.length_cons]
    omega
  | (k, v) :: f :: fields => by
    have hv := v.weight_le y depth
    have hfields := fieldsWeight_le y depth (f :: fields)
    rw [fieldsWeight, spellFields]
    · simp only [List.length_append, List.length_cons]
      omega
    · simp

end

/-- The text of a value, in any layout, is read as its syntax tree. -/
private theorem ofChars_spell (y : Layout) (v : Value) :
    Node.ofChars (v.spell y 0) = (v.node, []) := by
  have hweight := v.weight_le y 0
  -- The reader may take two steps down for each character of the text, which is enough
  have hread := v.read_spell y 0 (2 * (v.spell y 0).length + 2) [] ends_nil (by omega)
  rwa [List.append_nil] at hread

/-- The compact text of a value is read as the value, and nothing is left of it. -/
theorem Node.ofChars_compact (v : Value) : Node.ofChars v.compact.toList = (v.node, []) := by
  rw [Value.compact, String.toList_ofList, v.compactChars_eq 0, ofChars_spell .compact]

/-- The pretty text of a value is read as the value, and nothing is left of it. -/
theorem Node.ofChars_pretty (v : Value) : Node.ofChars v.pretty.toList = (v.node, []) := by
  rw [Value.pretty, String.toList_ofList, v.prettyChars_eq 0, ofChars_spell .pretty]

end TweetHarvest.Json
