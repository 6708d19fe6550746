import TweetHarvest.Text.Blank
import TweetHarvest.Text.Digits

/-!
# IPv6 addresses

Eight groups of up to four hexadecimal digits, divided by colons.  Two colons in a row stand for
one or more groups of zeros, once; the last two groups may be written as an IPv4 address.

* `Ipv6.read?`  the eight groups
* `Ipv6.text`   the shortest form: the longest run of zeros is left out, the first of equal ones
-/

namespace TweetHarvest.Ipv6

/-- The value of a group. -/
def group? (s : List Char) : Option Nat :=
  if s.isEmpty || 4 < s.length then none
  else s.foldlM (fun total c => (Hex.value? c).map (16 * total + ·)) 0

/-- The value of an octet in decimal, without leading zeros. -/
def octet? (s : List Char) : Option Nat :=
  match s with
  | '0' :: _ :: _ => none
  | _ => if s.head? = some '+' then none else Decimal.read? 256 s

/-- The two groups of an IPv4 address. -/
def embedded? (s : List Char) : Option (List Nat) := do
  match ← (Text.splitOn '.' s).mapM octet? with
  | [a, b, c, d] => return [256 * a + b, 256 * c + d]
  | _ => failure

/-- The values of groups; the last one may be an IPv4 address if that is allowed. -/
def groups? (allowEmbedded : Bool) : List (List Char) → Option (List Nat)
  | [] => some []
  | [last] =>
    if last.contains '.' then if allowEmbedded then embedded? last else none
    else (group? last).map ([·])
  | first :: rest => do
    let n ← group? first
    let ns ← groups? allowEmbedded rest
    return n :: ns

/-- The groups between the colons of a text, which may be empty. -/
def side? (allowEmbedded : Bool) (s : List Char) : Option (List Nat) :=
  if s.isEmpty then some [] else groups? allowEmbedded (Text.splitOn ':' s)

/-- Splits a text at the first two colons in a row. -/
def splitGap : List Char → Option (List Char × List Char)
  | [] => none
  | ':' :: ':' :: rest => some ([], rest)
  | c :: rest => (splitGap rest).map fun (left, right) => (c :: left, right)

/-- The eight groups of an address. -/
def read? (s : List Char) : Option (List Nat) := do
  match splitGap s with
  | none =>
    let groups ← groups? true (Text.splitOn ':' s)
    if groups.length = 8 then return groups else failure
  | some (left, right) =>
    let left ← side? false left
    let right ← side? true right
    let known := left.length + right.length
    -- The gap stands for one group at least
    if known < 8 then return left ++ List.replicate (8 - known) 0 ++ right else failure

/-- The hexadecimal numeral of a number. -/
def hexChars (n : Nat) : List Char := Nat.toDigits 16 n

/-- The length of the run of zeros at the start. -/
def zeros (groups : List Nat) : Nat := (groups.takeWhile (· = 0)).length

/-- The place and the length of the longest run of zeros, the first of equal ones. -/
def longestZeros (place : Nat) : List Nat → Nat × Nat
  | [] => (place, 0)
  | g :: rest =>
    let here := zeros (g :: rest)
    let (at', length) := longestZeros (place + 1) rest
    if length ≤ here then (place, here) else (at', length)

/-- The address in its shortest form, without brackets. -/
def text (groups : List Nat) : List Char :=
  let (place, length) := longestZeros 0 groups
  let join (gs : List Nat) := Text.joinWith ':' (gs.map hexChars)
  -- A single zero is written out
  if length < 2 then join groups
  else join (groups.take place) ++ ':' :: ':' :: join (groups.drop (place + length))

end TweetHarvest.Ipv6
