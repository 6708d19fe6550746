import TweetHarvest.Text.Digits

/-!
# Instants and their texts

An instant is a number of seconds since the start of 1970 in UTC and a part of a second.  A leap
second is written as the second before it with a part of one second or more; it may follow any
second, although UTC has had leap seconds only behind the second 59 of a minute.  Dates are those of
the Gregorian calendar extended in both directions, from year -262143 to year 262142.

* `Instant.ofUnix?`   the instant of a count of seconds and a part of a second
* `Date.ofDay`        the date of a day, counted from the start of 1970
* `Instant.stamp`     the form for file names, `20240120_153000`
* `Instant.rfc3339`   the form for metadata, `2024-01-20T15:30:00Z`
-/

namespace TweetHarvest

/-- A day of the Gregorian calendar. -/
structure Date where
  year : Int
  month : Nat
  day : Nat
deriving DecidableEq, Repr

/-- The date of a day, counted from the first of January 1970.  Years are taken to start in March,
so that the leap day is the last one, and are grouped in eras of 400 years, which all have 146097
days. -/
def Date.ofDay (n : Int) : Date :=
  let shifted := n + 719468
  let era := shifted / 146097
  let dayOfEra := (shifted % 146097).toNat
  let yearOfEra := (dayOfEra - dayOfEra / 1460 + dayOfEra / 36524 - dayOfEra / 146096) / 365
  let dayOfYear := dayOfEra - (365 * yearOfEra + yearOfEra / 4 - yearOfEra / 100)
  let fromMarch := (5 * dayOfYear + 2) / 153
  let month := if fromMarch < 10 then fromMarch + 3 else fromMarch - 9
  { year := yearOfEra + era * 400 + (if month ≤ 2 then 1 else 0)
    month
    day := dayOfYear - (153 * fromMarch + 2) / 5 + 1 }

/-- The least second of year -262143 and the first one after year 262142. -/
def Instant.range : Int × Int := (-8334601228800, 8210266876800)

/-- The number of nanoseconds in a second. -/
def nanosPerSecond : Nat := 1000000000

/-- A point in time. -/
structure Instant where
  /-- Seconds since the start of 1970. -/
  seconds : Int
  /-- The part of the second in nanoseconds; a whole second or more in a leap second. -/
  nanos : Nat
  seconds_mem : Instant.range.1 ≤ seconds ∧ seconds < Instant.range.2
  nanos_lt : nanos < 2 * nanosPerSecond

namespace Instant

/-- The instant with the given count of seconds and nanoseconds, if it is in range.  A count is not
taken for a leap second anywhere but behind the last second of a minute. -/
def ofUnix? (seconds : Int) (nanos : Nat) : Option Instant :=
  if h : (range.1 ≤ seconds ∧ seconds < range.2) ∧ nanos < 2 * nanosPerSecond ∧
      (nanosPerSecond ≤ nanos → seconds % 60 = 59) then
    some ⟨seconds, nanos, h.1, h.2.1⟩
  else none

/-- The date of an instant. -/
def date (t : Instant) : Date := Date.ofDay (t.seconds / 86400)

/-- The second of the day. -/
def secondOfDay (t : Instant) : Nat := (t.seconds % 86400).toNat

/-- The hour of the day. -/
def hour (t : Instant) : Nat := t.secondOfDay / 3600

/-- The minute of the hour. -/
def minute (t : Instant) : Nat := t.secondOfDay / 60 % 60

/-- The number of the second in its minute.  A leap second has the number behind that of the second
before it, which is 60 at the end of a minute. -/
def second (t : Instant) : Nat :=
  t.secondOfDay % 60 + t.nanos / nanosPerSecond

/-- Years from 0 to 9999 have four digits; all others carry a sign and at least four digits. -/
def yearChars (year : Int) : List Char :=
  if 0 ≤ year && year < 10000 then Decimal.padded 4 year.toNat
  else (if year < 0 then '-' else '+') :: Decimal.padded 4 year.natAbs

/-- Year, month, day, an underscore, hour, minute and second. -/
def stamp (t : Instant) : List Char :=
  let d := t.date
  yearChars d.year ++ Decimal.padded 2 d.month ++ Decimal.padded 2 d.day ++
    '_' :: Decimal.padded 2 t.hour ++ Decimal.padded 2 t.minute ++ Decimal.padded 2 t.second

/-- The RFC 3339 form in UTC without fractions of a second. -/
def rfc3339 (t : Instant) : String :=
  let d := t.date
  String.ofList <|
    yearChars d.year ++ '-' :: Decimal.padded 2 d.month ++ '-' :: Decimal.padded 2 d.day ++
      'T' :: Decimal.padded 2 t.hour ++ ':' :: Decimal.padded 2 t.minute ++
      ':' :: Decimal.padded 2 t.second ++ ['Z']

end Instant

end TweetHarvest
