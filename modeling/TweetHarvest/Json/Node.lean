import TweetHarvest.Json.Value
import TweetHarvest.Text.Digits
import TweetHarvest.Text.Utf8

/-!
# Reading JSON text

A text is read into a tree that shows how far it was well formed: reading goes on to the first
fault and leaves it in the tree, at the place where it was met.  What a reader of the tree wants to
keep and what it passes over may be judged differently, so a break carries one fault for each use,
numbers keep their digits, and strings their decoded content or the fault that a lone surrogate is.

* `Json.Fault`      why a text is refused
* `Json.Node`       the tree, each container with the break at which it ended, if any
* `Json.Node.read`  the value at the start of a text, and what follows it
-/

namespace TweetHarvest.Json

/-- Why a text is refused. -/
inductive Fault where
  /-- The text ends too early. -/
  | truncated
  /-- The text is not JSON, or a number or nesting level is out of range. -/
  | malformed
  /-- The text is JSON, but not of the wanted shape. -/
  | mismatched
deriving DecidableEq, Repr

/-- The place where well-formed text ends, with the fault for a reader that keeps the value there
and for one that passes over it. -/
structure Break where
  kept : Fault
  skipped : Fault
deriving DecidableEq, Repr

/-- A break that is the same fault for every reader. -/
def Break.both (fault : Fault) : Break := ⟨fault, fault⟩

/-- The parts of a number as written. -/
structure Numeral where
  negative : Bool
  whole : List Char
  fraction : Option (List Char)
  /-- Whether the exponent is negative, and its digits. -/
  exponent : Option (Bool × List Char)
deriving DecidableEq, Repr

/-- The syntax tree of a text. -/
inductive Node where
  | null
  | bool (b : Bool)
  | number (n : Numeral)
  | string (content : Except Fault String)
  | array (items : List Node) (ending : Option Break)
  | object (members : List (Except Fault String × Node)) (ending : Option Break)
  | broken (b : Break)

/-! ### Numbers -/

/-- Reads digits as long as the number stays below `2 ^ 64`; the digits from the first one that
does not fit are left over. -/
def accumulate (total : Nat) : List Char → Nat × List Char
  | [] => (total, [])
  | c :: cs =>
    let next := Decimal.extend total c
    if next < UInt64.size then accumulate next cs else (total, c :: cs)

/-- The greatest exponent that is told apart from larger ones. -/
def greatestExponent : Nat := 2147483647

/-- The number that a numeral stands for, `none` if it is beyond the doubles.  Digits that do not
fit into 64 bits only count as places. -/
def Numeral.number? (n : Numeral) : Option Number :=
  let (whole, dropped) := accumulate 0 n.whole
  match n.fraction, n.exponent, dropped with
  | none, none, [] =>
    -- Without a point and an exponent it stays an integer as long as it fits
    if !n.negative then some (.unsigned whole.toUInt64)
    -- Below zero only down to `-2 ^ 63`, and a negative zero is a double
    else if h : whole - 1 < Number.negativeCount then
      if whole = 0 then some (.float (.zero true)) else some (.negative ⟨whole - 1, h⟩)
    else (Binary64.ofNat? true whole).map .float
  | _, _, _ =>
    let digits := n.fraction.getD []
    let (significand, unused) := accumulate whole digits
    -- Digits in front that did not fit raise the place, those behind the point that did lower it
    let place : Int := dropped.length - (digits.length - unused.length : Nat)
    match n.exponent with
    | none => (Binary64.ofDecimal? n.negative significand place).map .float
    | some (negative, ds) =>
      let exponent := Decimal.value ds
      if greatestExponent < exponent then
        -- An exponent too large to be told makes the number infinite or zero
        if significand ≠ 0 && !negative then none else some (.float (.zero n.negative))
      else
        let shift : Int := if negative then -exponent else exponent
        (Binary64.ofDecimal? n.negative significand (place + shift)).map .float

/-- Splits the digits off the front of a text. -/
def spanDigits (s : List Char) : List Char × List Char :=
  (s.takeWhile Char.isDigit, s.dropWhile Char.isDigit)

/-- The break where a digit was due: at the end of the text a kept number is truncated, but one
that is passed over counts as malformed. -/
def digitDue (s : List Char) : Break :=
  ⟨if s.isEmpty then .truncated else .malformed, .malformed⟩

/-- Reads the exponent of a number, if there is one. -/
def readExponent (s : List Char) : Except Break (Option (Bool × List Char) × List Char) :=
  match s with
  | c :: rest =>
    if c = 'e' || c = 'E' then
      -- The sign may be left out
      let (negative, rest) := match rest with
        | '+' :: rest => (false, rest)
        | '-' :: rest => (true, rest)
        | rest => (false, rest)
      match spanDigits rest with
      | ([], rest) => .error (digitDue rest)
      | (ds, rest) => .ok (some (negative, ds), rest)
    else .ok (none, s)
  | [] => .ok (none, [])

/-- Reads the fraction of a number, if there is one. -/
def readFraction (s : List Char) : Except Break (Option (List Char) × List Char) :=
  match s with
  | '.' :: rest =>
    match spanDigits rest with
    | ([], rest) => .error (digitDue rest)
    | (ds, rest) => .ok (some ds, rest)
  | _ => .ok (none, s)

/-- Reads the digits before the point; a zero in front stands alone. -/
def readWhole (s : List Char) : Except Break (List Char × List Char) :=
  match spanDigits s with
  | ([], rest) => .error (digitDue rest)
  -- A zero may not be followed by other digits
  | ('0' :: _ :: _, _) => .error (.both .malformed)
  | (ds, rest) => .ok (ds, rest)

/-- Reads a number after its sign. -/
def readNumeral (negative : Bool) (s : List Char) : Except Break (Numeral × List Char) := do
  let (whole, s) ← readWhole s
  let (fraction, s) ← readFraction s
  let (exponent, s) ← readExponent s
  return (⟨negative, whole, fraction, exponent⟩, s)

/-! ### Strings -/

/-- A piece of a string: a character, or the sixteen bits of a `\u` escape. -/
inductive Piece where
  | char (c : Char)
  | unit (n : Nat)
deriving DecidableEq, Repr

/-- The value of four hexadecimal digits. -/
def hexUnit? (a b c d : Char) : Option Nat := do
  let a ← Hex.value? a
  let b ← Hex.value? b
  let c ← Hex.value? c
  let d ← Hex.value? d
  return ((a * 16 + b) * 16 + c) * 16 + d

/-- The character that a single letter stands for after a backslash. -/
def unescape? (c : Char) : Option Char :=
  match c with
  | '"' => some '"'
  | '\\' => some '\\'
  | '/' => some '/'
  | 'b' => some '\x08'
  | 'f' => some '\x0c'
  | 'n' => some '\n'
  | 'r' => some '\r'
  | 't' => some '\t'
  | _ => none

/-- Reads the pieces of a string up to its closing quote.  The result has the pieces before the
end or the fault, and what follows the closing quote.  A `\u` escape takes the next four octets,
and a text that has fewer is truncated. -/
def readPieces : List Char → List Piece × Except Fault (List Char)
  | [] => ([], .error .truncated)
  | '"' :: rest => ([], .ok rest)
  | ['\\'] => ([], .error .truncated)
  | '\\' :: 'u' :: a :: b :: c :: d :: rest =>
    match hexUnit? a b c d with
    | some n => let (pieces, ending) := readPieces rest; (.unit n :: pieces, ending)
    | none => ([], .error .malformed)
  -- Fewer than four characters are left, which may still be four octets
  | '\\' :: 'u' :: short =>
    ([], .error (if Utf8.size short < 4 then .truncated else .malformed))
  | '\\' :: c :: rest =>
    match unescape? c with
    | some e => let (pieces, ending) := readPieces rest; (.char e :: pieces, ending)
    | none => ([], .error .malformed)
  | c :: rest =>
    if c.toNat < 0x20 then ([], .error .malformed)
    else let (pieces, ending) := readPieces rest; (.char c :: pieces, ending)

/-- Whether a unit is the first of a surrogate pair. -/
def isHighSurrogate (n : Nat) : Bool := 0xD800 ≤ n && n ≤ 0xDBFF

/-- Whether a unit is the second of a surrogate pair. -/
def isLowSurrogate (n : Nat) : Bool := 0xDC00 ≤ n && n ≤ 0xDFFF

/-- The characters of the pieces; surrogates must come in pairs.  `fault` is the one that ended the
pieces, if they did not end with a quote. -/
def joinPieces (fault : Option Fault) : List Piece → Except Fault (List Char)
  | [] => match fault with
    | none => .ok []
    | some f => .error f
  | .char c :: rest => (joinPieces fault rest).map (c :: ·)
  | [.unit n] =>
    if isLowSurrogate n then .error .malformed
    -- The other half is missing, so what ended the pieces is to blame
    else if isHighSurrogate n then .error (fault.getD .malformed)
    else match fault with
      | none => .ok [Char.ofNat n]
      | some f => .error f
  | .unit n :: .unit m :: rest =>
    if isLowSurrogate n then .error .malformed
    else if isHighSurrogate n then
      if isLowSurrogate m then
        (joinPieces fault rest).map
          -- Each half has ten bits of the number above `0x10000`
          (Char.ofNat (0x10000 + (n - 0xD800) * 0x400 + (m - 0xDC00)) :: ·)
      else .error .malformed
    else (joinPieces fault (.unit m :: rest)).map (Char.ofNat n :: ·)
  | .unit n :: .char c :: rest =>
    if isLowSurrogate n || isHighSurrogate n then .error .malformed
    else (joinPieces fault (.char c :: rest)).map (Char.ofNat n :: ·)

/-- Reads a string after its opening quote: its content and what follows, or the break. -/
def readString (s : List Char) : Except Break (Except Fault String × List Char) :=
  match readPieces s with
  | (pieces, .ok rest) => .ok ((joinPieces none pieces).map String.ofList, rest)
  | (pieces, .error fault) =>
    match joinPieces (some fault) pieces with
    -- A reader that keeps the string may meet the fault of a surrogate before
    | .error kept => .error ⟨kept, fault⟩
    | .ok _ => .error (.both fault)

/-! ### Values -/

/-- Whether a character is a blank between the tokens of JSON. -/
def isGap (c : Char) : Bool := c = ' ' || c = '\n' || c = '\t' || c = '\r'

/-- Passes over blanks. -/
def skipGap (s : List Char) : List Char := s.dropWhile isGap

/-- Reads the rest of a word such as `null`. -/
def readWord (word : List Char) (node : Node) (s : List Char) : Node × List Char :=
  match word, s with
  | [], s => (node, s)
  | _ :: _, [] => (.broken (.both .truncated), [])
  | w :: word, c :: s => if w = c then readWord word node s else (.broken (.both .malformed), [])

/-- A number node or the break at which it ended. -/
def numberNode (result : Except Break (Numeral × List Char)) : Node × List Char :=
  match result with
  | .ok (n, rest) => (.number n, rest)
  | .error b => (.broken b, [])

mutual

/-- Reads the value at the start of a text.  Nothing follows a broken value. -/
def Node.read (fuel : Nat) (s : List Char) : Node × List Char :=
  match fuel, skipGap s with
  -- There is always fuel for a text, see `Node.ofChars`
  | 0, _ | _, [] => (.broken (.both .truncated), [])
  | fuel + 1, c :: rest =>
    if c = '"' then
      match readString rest with
      | .ok (content, rest) => (.string content, rest)
      | .error b => (.broken b, [])
    else if c = '[' then
      let (items, ending, rest) := match skipGap rest with
        | [] => ([], some (.both .truncated), [])
        | ']' :: rest => ([], none, rest)
        | rest => readItems fuel rest
      (.array items ending, rest)
    else if c = '\x7b' then
      let (members, ending, rest) := match skipGap rest with
        | [] => ([], some (.both .truncated), [])
        | '\x7d' :: rest => ([], none, rest)
        | rest => readMembers fuel rest
      (.object members ending, rest)
    -- The first letter tells which word it has to be
    else if c = 'n' then readWord ['u', 'l', 'l'] .null rest
    else if c = 't' then readWord ['r', 'u', 'e'] (.bool true) rest
    else if c = 'f' then readWord ['a', 'l', 's', 'e'] (.bool false) rest
    else if c = '-' then numberNode (readNumeral true rest)
    else if c.isDigit then numberNode (readNumeral false (c :: rest))
    else (.broken (.both .malformed), [])

/-- Reads the items of an array up to its closing bracket. -/
def readItems (fuel : Nat) (s : List Char) : List Node × Option Break × List Char :=
  match fuel with
  | 0 => ([], some (.both .truncated), [])
  | fuel + 1 =>
    let (item, rest) := Node.read fuel s
    match skipGap rest with
    | [] => ([item], some (.both .truncated), [])
    | ']' :: rest => ([item], none, rest)
    | ',' :: rest =>
      let (items, ending, rest) := readItems fuel rest
      (item :: items, ending, rest)
    | _ => ([item], some (.both .malformed), [])

/-- Reads the members of an object up to its closing brace. -/
def readMembers (fuel : Nat) (s : List Char) :
    List (Except Fault String × Node) × Option Break × List Char :=
  match fuel, skipGap s with
  | 0, _ | _, [] => ([], some (.both .truncated), [])
  | fuel + 1, '"' :: rest =>
    match readString rest with
    | .error b => ([], some b, [])
    | .ok (key, rest) =>
      -- The value follows a colon
      let (node, rest) := match skipGap rest with
        | [] => (.broken (.both .truncated), [])
        | ':' :: rest => Node.read fuel rest
        | _ => (.broken (.both .malformed), [])
      match skipGap rest with
      | [] => ([(key, node)], some (.both .truncated), [])
      | '\x7d' :: rest => ([(key, node)], none, rest)
      | ',' :: rest =>
        let (members, ending, rest) := readMembers fuel rest
        ((key, node) :: members, ending, rest)
      | _ => ([(key, node)], some (.both .malformed), [])
  | _, _ => ([], some (.both .malformed), [])

end

/-- The value at the start of a text, and what follows it.  A level of nesting takes at least one
character and two steps of the reader. -/
def Node.ofChars (s : List Char) : Node × List Char :=
  Node.read (2 * s.length + 2) s

end TweetHarvest.Json
