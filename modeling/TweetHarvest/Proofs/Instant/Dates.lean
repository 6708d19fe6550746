import TweetHarvest.Instant

/-!
# Days and dates

Every date is that of one day only: the day can be counted back from the date.

## Key results

- `Date.toDay_ofDay`: the date of a day tells the day
- `Date.month_ofDay_le`, `Date.day_ofDay_le`, `Date.year_ofDay_bounds`: the parts of a date
-/

namespace TweetHarvest.Date

/-- The day before the first of March of a year of an era. -/
def daysBefore (yearOfEra : Nat) : Nat := 365 * yearOfEra + yearOfEra / 4 - yearOfEra / 100

/-- The year of an era that a day belongs to. -/
def yearOfEra (dayOfEra : Nat) : Nat :=
  (dayOfEra - dayOfEra / 1460 + dayOfEra / 36524 - dayOfEra / 146096) / 365

/-- The day that a date stands for, counted from the first of January 1970. -/
def toDay (d : Date) : Int :=
  let fromMarch := if d.month ≤ 2 then d.month + 9 else d.month - 3
  let year := d.year - if d.month ≤ 2 then 1 else 0
  year / 400 * 146097 + daysBefore (year % 400).toNat + ((153 * fromMarch + 2) / 5 + (d.day - 1) : Nat)
    - 719468

/-- A day `s` in the fours of years `k` of the century `b` belongs to one of the four years. -/
private theorem yearOfEra_eq {dayOfEra b k s : Nat} (hb : b ≤ 3) (hk : k ≤ 24) (hs : s < 1461)
    (hlast : k = 24 → s < 1460) (h : dayOfEra = 36524 * b + 1461 * k + s) :
    yearOfEra dayOfEra = 100 * b + 4 * k + min (s / 365) 3 := by
  -- The quotients correct the day for the leap days before it
  have hcentury : dayOfEra / 36524 = b := by omega
  have hera : dayOfEra / 146096 = 0 := by omega
  have hfour : dayOfEra / 1460 = 25 * b + k + (k + s + 24 * b) / 1460 := by omega
  rw [yearOfEra, hcentury, hera, hfour]
  omega

/-- The days of an era fall into its 400 years. -/
theorem yearOfEra_spec {dayOfEra : Nat} (h : dayOfEra < 146097) :
    yearOfEra dayOfEra ≤ 399 ∧ daysBefore (yearOfEra dayOfEra) ≤ dayOfEra ∧
      dayOfEra - daysBefore (yearOfEra dayOfEra) ≤ 365 := by
  -- The last day of an era is the leap day that its last century has in addition
  by_cases hlast : dayOfEra = 146096
  · subst hlast
    decide
  · obtain ⟨b, r, hb, hr, hday⟩ : ∃ b r, b ≤ 3 ∧ r < 36524 ∧ dayOfEra = 36524 * b + r :=
      ⟨dayOfEra / 36524, dayOfEra % 36524, by omega, by omega, by omega⟩
    obtain ⟨k, s, hk, hs, hr'⟩ : ∃ k s, k ≤ 24 ∧ s < 1461 ∧ r = 1461 * k + s :=
      ⟨r / 1461, r % 1461, by omega, by omega, by omega⟩
    have hyear : yearOfEra dayOfEra = 100 * b + 4 * k + min (s / 365) 3 :=
      yearOfEra_eq hb hk hs (by omega) (by omega)
    -- A number of its own for the year among the four keeps the arithmetic linear
    obtain ⟨j, hj, hj'⟩ : ∃ j, j ≤ 3 ∧ j = min (s / 365) 3 := ⟨_, by omega, rfl⟩
    rw [← hj'] at hyear
    have hleap : (100 * b + 4 * k + j) / 4 = 25 * b + k := by omega
    have hcentury : (100 * b + 4 * k + j) / 100 = b := by omega
    rw [hyear, daysBefore, hleap, hcentury]
    omega

/-- The parts of the date of a day. -/
private theorem ofDay_eq (n : Int) : ∃ era : Int, ∃ year dayOfYear : Nat,
    era = (n + 719468) / 146097 ∧ year ≤ 399 ∧ dayOfYear ≤ 365 ∧
    n = era * 146097 + daysBefore year + dayOfYear - 719468 ∧
    ofDay n =
      { year := year + era * 400 + (if (5 * dayOfYear + 2) / 153 < 10 then 0 else 1)
        month := if (5 * dayOfYear + 2) / 153 < 10 then (5 * dayOfYear + 2) / 153 + 3
          else (5 * dayOfYear + 2) / 153 - 9
        day := dayOfYear - (153 * ((5 * dayOfYear + 2) / 153) + 2) / 5 + 1 } := by
  -- An era is four hundred years, which always have the same number of days
  let dayOfEra := ((n + 719468) % 146097).toNat
  have hday : dayOfEra < 146097 := by omega
  obtain ⟨hyear, hbefore, hrest⟩ := yearOfEra_spec hday
  refine ⟨(n + 719468) / 146097, yearOfEra dayOfEra, dayOfEra - daysBefore (yearOfEra dayOfEra),
    rfl, hyear, hrest, by omega, ?_⟩
  generalize hd : dayOfEra - daysBefore (yearOfEra dayOfEra) = dayOfYear at hrest
  -- The year starts in March, so that January and February belong to the next one
  have hof : ofDay n =
      { year := yearOfEra dayOfEra + (n + 719468) / 146097 * 400 +
          (if (if (5 * dayOfYear + 2) / 153 < 10 then (5 * dayOfYear + 2) / 153 + 3
            else (5 * dayOfYear + 2) / 153 - 9) ≤ 2 then 1 else 0)
        month := if (5 * dayOfYear + 2) / 153 < 10 then (5 * dayOfYear + 2) / 153 + 3
          else (5 * dayOfYear + 2) / 153 - 9
        day := dayOfYear - (153 * ((5 * dayOfYear + 2) / 153) + 2) / 5 + 1 } := by
    rw [← hd]
    rfl
  rw [hof]
  congr 2
  split <;> split <;> omega

/-- The date of a day tells the day. -/
theorem toDay_ofDay (n : Int) : (ofDay n).toDay = n := by
  obtain ⟨era, year, dayOfYear, -, hyear, hday, hn, hdate⟩ := ofDay_eq n
  have hmonth : (5 * dayOfYear + 2) / 153 ≤ 11 := by omega
  have hrest : (153 * ((5 * dayOfYear + 2) / 153) + 2) / 5 ≤ dayOfYear := by omega
  rw [hdate]
  -- January and February belong to the year that started in March before them
  generalize (5 * dayOfYear + 2) / 153 = fromMarch at hmonth hrest
  by_cases hmarch : fromMarch < 10
  · have hera : ((year : Int) + era * 400) / 400 = era := by omega
    have hrestYear : (((year : Int) + era * 400) % 400).toNat = year := by omega
    simp only [toDay, if_pos hmarch, show ¬ fromMarch + 3 ≤ 2 by omega, if_false,
      Nat.add_sub_cancel, Int.add_zero, Int.sub_zero, hera, hrestYear]
    omega
  · have hera : ((year : Int) + era * 400 + 1 - 1) / 400 = era := by omega
    have hrestYear : (((year : Int) + era * 400 + 1 - 1) % 400).toNat = year := by omega
    simp only [toDay, if_neg hmarch, show fromMarch - 9 ≤ 2 by omega, if_true, hera, hrestYear,
      Nat.add_sub_cancel, show fromMarch - 9 + 9 = fromMarch by omega]
    omega

/-- Different days have different dates. -/
theorem ofDay_inj {n m : Int} : ofDay n = ofDay m ↔ n = m := by
  constructor
  · intro h
    rw [← toDay_ofDay n, h, toDay_ofDay]
  · rintro rfl
    rfl

/-- Months are counted up to twelve. -/
theorem month_ofDay_le (n : Int) : (ofDay n).month ≤ 12 := by
  obtain ⟨_, _, dayOfYear, -, -, hday, -, hdate⟩ := ofDay_eq n
  rw [hdate]
  dsimp only
  split <;> omega

/-- No month has more than 31 days. -/
theorem day_ofDay_le (n : Int) : (ofDay n).day ≤ 31 := by
  obtain ⟨_, _, dayOfYear, -, -, hday, -, hdate⟩ := ofDay_eq n
  rw [hdate]
  dsimp only
  omega

/-- The years that a range of days falls into, up to the one after it. -/
theorem year_ofDay_bounds (n : Int) :
    (n + 719468) / 146097 * 400 ≤ (ofDay n).year ∧
      (ofDay n).year ≤ (n + 719468) / 146097 * 400 + 400 := by
  obtain ⟨era, year, dayOfYear, hera, hyear, -, -, hdate⟩ := ofDay_eq n
  rw [hdate, ← hera]
  dsimp only
  split <;> omega

end TweetHarvest.Date
