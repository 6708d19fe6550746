import TweetHarvest.Text.Blank
import TweetHarvest.Text.Digits

/-!
# IPv4 addresses

A host whose last part is a number is an address.  Up to four parts divided by dots are read, each
decimal, octal after a zero or hexadecimal after `0x`; the last part fills all octets that are
left.

* `Ipv4.endsInNumber`  whether a host has to be an address
* `Ipv4.read?`         the address
* `Ipv4.text`          four decimal parts
-/

namespace TweetHarvest.Ipv4

/-- What a part of an address may be. -/
inductive Part where
  | invalid
  | tooLarge
  | number (n : Nat)
deriving DecidableEq

/-- The number that digits of a base stand for. -/
def valueInBase (base : Nat) (ds : List Char) : Option Nat :=
  ds.foldlM (fun total c => do
    let d ← Hex.value? c
    if d < base then some (base * total + d) else none) 0

/-- Reads a part of an address. -/
def readPart (s : List Char) : Part :=
  -- What stands in front tells the base
  let (base, ds) := match s with
    | '0' :: 'x' :: rest => (16, rest)
    | '0' :: 'X' :: rest => (16, rest)
    | '0' :: c :: rest => (8, c :: rest)
    | other => (10, other)
  if s.isEmpty then .invalid
  else match valueInBase base ds with
    | none => .invalid
    | some n => if n < UInt32.size then .number n else .tooLarge

/-- The parts of a host, without an empty one at the end. -/
def parts (s : List Char) : List (List Char) :=
  let all := Text.splitOn '.' s
  if all.getLast? = some [] then all.dropLast else all

/-- Whether the last part is a number, so that the host has to be an address. -/
def endsInNumber (s : List Char) : Bool :=
  match (parts s).getLast? with
  | none => false
  | some last => (!last.isEmpty && last.all Char.isDigit) || readPart last ≠ .invalid

/-- Adds up the parts in front of the last one, each an octet `shift` bits from the right end of
the address or less. -/
def frontValue (shift : Nat) : List Nat → Nat
  | [] => 0
  | n :: rest => n <<< shift + frontValue (shift - 8) rest

/-- The address of a host. -/
def read? (s : List Char) : Option Nat := do
  let ps := parts s
  if 4 < ps.length then failure
  let numbers ← ps.mapM fun p => match readPart p with
    | .number n => some n
    | _ => none
  let last ← numbers.getLast?
  let front := numbers.dropLast
  -- The last part fills all octets that are left
  if last < 1 <<< (8 * (4 - front.length)) && front.all (· ≤ 255) then
    return last + frontValue 24 front
  else failure

/-- The four octets in decimal. -/
def text (address : Nat) : List Char :=
  Text.joinWith '.' <|
    [24, 16, 8, 0].map fun shift => Decimal.digits (address >>> shift % 256)

end TweetHarvest.Ipv4
