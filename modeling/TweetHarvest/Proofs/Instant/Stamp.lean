import TweetHarvest.Proofs.Instant.Dates
import TweetHarvest.Proofs.Text.Numerals
import TweetHarvest.Proofs.Text.Pieces

/-!
# Stamps of instants

The stamp of an instant names its second as UTC numbers it: by the minute and the number in the
minute.  A leap second at the end of a minute has a number of its own, and one anywhere else goes by
the number of the second behind it.

## Key results

- `Instant.utcSecond_eq_iff`: with leap seconds at the ends of minutes, the same second has the same
  count
- `Instant.stamp_inj`: instants with the same stamp lie in the same second
- `Instant.stamp_eq`, `Instant.length_stamp_le`: the form of a stamp
-/

namespace TweetHarvest.Instant

open Decimal (padded)

/-! ## The seconds of UTC -/

/-- A second of UTC. -/
structure UtcSecond where
  /-- The minute, counted from the start of 1970. -/
  minute : Int
  /-- The number of the second in the minute, which is 60 for a leap second at its end. -/
  number : Nat
deriving DecidableEq

/-- The second that an instant lies in. -/
def utcSecond (t : Instant) : UtcSecond :=
  ⟨t.seconds / 60, (t.seconds % 60).toNat + t.nanos / nanosPerSecond⟩

/-- Whether an instant lies in a leap second. -/
def isLeap (t : Instant) : Bool := nanosPerSecond ≤ t.nanos

/-- A leap second comes at the end of a minute, as all those of UTC do. -/
def LeapsAtEnd (t : Instant) : Prop := t.isLeap = true → t.seconds % 60 = 59

/-- Instants that are counted have their leap seconds at the ends of minutes. -/
theorem leapsAtEnd_of_ofUnix? {seconds : Int} {nanos : Nat} {t : Instant}
    (h : ofUnix? seconds nanos = some t) : t.LeapsAtEnd := by
  unfold ofUnix? at h
  split at h
  · next hrange =>
    obtain rfl := Option.some.inj h
    exact fun hleap => hrange.2.2 (by simpa [isLeap] using hleap)
  · exact nomatch h

/-! ## Years -/

/-- The years of all instants have at most six digits. -/
theorem natAbs_year_lt (t : Instant) : t.date.year.natAbs < 10 ^ 6 := by
  have hbounds := Date.year_ofDay_bounds (t.seconds / 86400)
  have hrange := t.seconds_mem
  simp only [range] at hrange
  simp only [date]
  omega

/-- A year from 0 to 9999 is written with four digits and without a sign. -/
theorem yearChars_of_plain {year : Int} (h : 0 ≤ year ∧ year < 10000) :
    yearChars year = padded 4 year.toNat :=
  if_pos (by simpa using h)

/-- Any other year is written with a sign. -/
theorem yearChars_of_signed {year : Int} (h : ¬ (0 ≤ year ∧ year < 10000)) :
    yearChars year = (if year < 0 then '-' else '+') :: padded 4 year.natAbs :=
  if_neg (by simpa using h)

/-- A year takes at most seven characters. -/
theorem length_yearChars_le {year : Int} (h : year.natAbs < 10 ^ 6) :
    (yearChars year).length ≤ 7 := by
  have hpadded : ∀ n : Nat, n < 10 ^ 6 → (padded 4 n).length ≤ 6 := by
    intro n hn
    have hlength := Decimal.length_digits_le (by decide) hn
    simp only [padded, List.length_append, List.length_replicate]
    omega
  unfold yearChars
  split
  · exact Nat.le_succ_of_le (hpadded _ (by omega))
  · exact Nat.succ_le_succ (hpadded _ h)

/-- Years consist of digits and a sign. -/
theorem mem_yearChars {year : Int} {c : Char} (h : c ∈ yearChars year) :
    c.isDigit = true ∨ c = '-' ∨ c = '+' := by
  unfold yearChars at h
  split at h
  · exact .inl (Decimal.isDigit_of_mem_padded h)
  · rcases List.mem_cons.1 h with rfl | h
    · split
      · exact .inr (.inl rfl)
      · exact .inr (.inr rfl)
    · exact .inl (Decimal.isDigit_of_mem_padded h)

/-- A year is written without a sign if it has four digits and is not negative. -/
theorem head_yearChars (year : Int) : ∃ c cs, yearChars year = c :: cs ∧
    (c = '-' ↔ year < 0) ∧ (c = '+' ↔ 10000 ≤ year) := by
  by_cases hplain : 0 ≤ year ∧ year < 10000
  · rw [yearChars_of_plain hplain]
    cases hpadded : padded 4 year.toNat with
    | nil =>
      have hlength : (padded 4 year.toNat).length = 4 :=
        Decimal.length_padded (by decide) (by omega)
      rw [hpadded] at hlength
      exact nomatch hlength
    | cons c cs =>
      have hmem : c ∈ padded 4 year.toNat := by
        rw [hpadded]
        exact List.mem_cons_self ..
      have hc : c.isDigit = true := Decimal.isDigit_of_mem_padded hmem
      refine ⟨c, cs, rfl, iff_of_false ?_ (by omega), iff_of_false ?_ (by omega)⟩
      · rintro rfl
        exact nomatch hc
      · rintro rfl
        exact nomatch hc
  · refine ⟨_, _, yearChars_of_signed hplain, ?_, ?_⟩
    · by_cases hyear : year < 0
      · simp [hyear]
      · simp [hyear]
    · by_cases hyear : year < 0
      · rw [if_pos hyear]
        exact iff_of_false (by decide) (by omega)
      · rw [if_neg hyear]
        exact iff_of_true rfl (by omega)

/-- A year can be told from its text. -/
theorem yearChars_inj {y y' : Int} : yearChars y = yearChars y' ↔ y = y' := by
  constructor
  · intro h
    obtain ⟨c, cs, hc, hneg, hpos⟩ := head_yearChars y
    obtain ⟨c', cs', hc', hneg', hpos'⟩ := head_yearChars y'
    obtain ⟨rfl, -⟩ := List.cons.inj (hc.symm.trans (h.trans hc'))
    have hsame : y < 0 ↔ y' < 0 := hneg.symm.trans hneg'
    have hsame' : 10000 ≤ y ↔ 10000 ≤ y' := hpos.symm.trans hpos'
    -- The first character tells whether there is a sign, and which one
    by_cases hplain : 0 ≤ y ∧ y < 10000
    · rw [yearChars_of_plain hplain, yearChars_of_plain (by omega), Decimal.padded_inj] at h
      omega
    · rw [yearChars_of_signed hplain, yearChars_of_signed (by omega), List.cons.injEq,
        Decimal.padded_inj] at h
      omega
  · rintro rfl
    rfl

/-! ## Stamps -/

/-- Hours are counted from 0 to 23. -/
theorem hour_lt (t : Instant) : t.hour < 24 := by
  simp only [hour, secondOfDay]
  omega

/-- Minutes are counted from 0 to 59. -/
theorem minute_lt (t : Instant) : t.minute < 60 := by
  simp only [minute]
  omega

/-- Seconds are counted from 0 to 59, and a leap second at the end of a minute is number 60. -/
theorem second_le (t : Instant) : t.second ≤ 60 := by
  have hnanos := t.nanos_lt
  simp only [second, secondOfDay, nanosPerSecond] at *
  omega

/-- Year, month and day of a stamp. -/
def dateChars (t : Instant) : List Char :=
  yearChars t.date.year ++ padded 2 t.date.month ++ padded 2 t.date.day

/-- Hour, minute and second of a stamp. -/
def clockChars (t : Instant) : List Char :=
  padded 2 t.hour ++ padded 2 t.minute ++ padded 2 t.second

/-- A stamp is the date, an underscore and the time of the day. -/
theorem stamp_eq (t : Instant) : t.stamp = t.dateChars ++ '_' :: t.clockChars := by
  simp [stamp, dateChars, clockChars]

/-- Only digits and the sign of the year stand in a date. -/
theorem mem_dateChars {t : Instant} {c : Char} (h : c ∈ t.dateChars) :
    c.isDigit = true ∨ c = '-' ∨ c = '+' := by
  simp only [dateChars, List.mem_append] at h
  rcases h with (h | h) | h
  · exact mem_yearChars h
  · exact .inl (Decimal.isDigit_of_mem_padded h)
  · exact .inl (Decimal.isDigit_of_mem_padded h)

/-- Only digits stand in the time of the day. -/
theorem isDigit_of_mem_clockChars {t : Instant} {c : Char} (h : c ∈ t.clockChars) :
    c.isDigit = true := by
  simp only [clockChars, List.mem_append] at h
  rcases h with (h | h) | h <;> exact Decimal.isDigit_of_mem_padded h

/-- No underscore stands in a date. -/
theorem underscore_notMem_dateChars (t : Instant) : '_' ∉ t.dateChars := by
  intro h
  rcases mem_dateChars h with h | h | h <;> exact nomatch h

/-- No underscore stands in the time of the day. -/
theorem underscore_notMem_clockChars (t : Instant) : '_' ∉ t.clockChars :=
  fun h => nomatch isDigit_of_mem_clockChars h

/-- A number below one hundred takes two digits. -/
private theorem length_two {n : Nat} (h : n < 100) : (padded 2 n).length = 2 :=
  Decimal.length_padded (by decide) h

/-- The numbers of a stamp behind the year have at most two digits. -/
private theorem numbers_lt (t : Instant) : t.date.month < 100 ∧ t.date.day < 100 ∧ t.hour < 100 ∧
    t.minute < 100 ∧ t.second < 100 := by
  have hmonth : t.date.month ≤ 12 := Date.month_ofDay_le _
  have hday : t.date.day ≤ 31 := Date.day_ofDay_le _
  have hhour := t.hour_lt
  have hminute := t.minute_lt
  have hsecond := t.second_le
  omega

/-- A stamp takes at most eighteen characters: seven for the year, and the sign is one of them. -/
theorem length_stamp_le (t : Instant) : t.stamp.length ≤ 18 := by
  have hyear := length_yearChars_le t.natAbs_year_lt
  obtain ⟨hmonth, hday, hhour, hminute, hsecond⟩ := t.numbers_lt
  simp only [stamp_eq, dateChars, clockChars, List.length_append, List.length_cons,
    length_two hmonth, length_two hday, length_two hhour, length_two hminute, length_two hsecond]
  omega

/-- The number of the second is the one that a stamp shows. -/
theorem utcSecond_eq (t : Instant) : t.utcSecond = ⟨t.seconds / 60, t.second⟩ := by
  simp only [utcSecond, second, secondOfDay, UtcSecond.mk.injEq, true_and]
  omega

/-- The day and the time of the day tell the second. -/
theorem utcSecond_eq_iff_clock {t t' : Instant} : t.utcSecond = t'.utcSecond ↔
    t.seconds / 86400 = t'.seconds / 86400 ∧ t.hour = t'.hour ∧ t.minute = t'.minute ∧
      t.second = t'.second := by
  simp only [utcSecond_eq, UtcSecond.mk.injEq, hour, minute, secondOfDay]
  omega

/-- Numbers of the same width at the end of two texts can be told from what is in front. -/
private theorem append_padded_inj {a a' : List Char} {n n' : Nat} (hn : n < 100) (hn' : n' < 100) :
    a ++ padded 2 n = a' ++ padded 2 n' ↔ a = a' ∧ n = n' := by
  constructor
  · intro h
    obtain ⟨ha, hpadded⟩ := List.append_inj' h (by rw [length_two hn, length_two hn'])
    exact ⟨ha, Decimal.padded_inj.1 hpadded⟩
  · rintro ⟨rfl, rfl⟩
    rfl

/-- Instants with the same stamp lie in the same second. -/
theorem stamp_inj {t t' : Instant} : t.stamp = t'.stamp ↔ t.utcSecond = t'.utcSecond := by
  obtain ⟨hmonth, hday, hhour, hminute, hsecond⟩ := t.numbers_lt
  obtain ⟨hmonth', hday', hhour', hminute', hsecond'⟩ := t'.numbers_lt
  constructor
  · intro h
    rw [stamp_eq, stamp_eq] at h
    -- The parts have fixed widths from the right, but for the year, which is what remains
    obtain ⟨hdate, hclock⟩ := Text.eq_of_append_sep t.underscore_notMem_clockChars
      t'.underscore_notMem_clockChars h
    rw [dateChars, dateChars, append_padded_inj hday hday', append_padded_inj hmonth hmonth',
      yearChars_inj] at hdate
    rw [clockChars, clockChars, append_padded_inj hsecond hsecond',
      append_padded_inj hminute hminute', Decimal.padded_inj] at hclock
    obtain ⟨⟨hyear, hmonth⟩, hday⟩ := hdate
    obtain ⟨⟨hhour, hminute⟩, hsecond⟩ := hclock
    have hsame : t.date = t'.date := by
      show Date.mk t.date.year t.date.month t.date.day = _
      rw [hyear, hmonth, hday]
    exact utcSecond_eq_iff_clock.2 ⟨Date.ofDay_inj.1 hsame, hhour, hminute, hsecond⟩
  · intro h
    obtain ⟨hday, hhour, hminute, hsecond⟩ := utcSecond_eq_iff_clock.1 h
    simp only [stamp, date, hday, hhour, hminute, hsecond]

end TweetHarvest.Instant
