import Mathlib.Data.Int.LeastGreatest
import Mathlib.Tactic.IntervalCases
import TokenAuthority.Time.Calendar

/-!
# Dates and days

A day number and the date it stands for determine each other, in both directions without end. Years are counted from
March here, as in the conversions, so that a year is 365 days and the leap day, if it has one, comes last. Main
statements: `Date.toDays_ofDays`, `Date.ofDays_toDays`, `Date.valid_ofDays`, `Date.le_year_iff`.
-/

namespace TokenAuthority.Date

variable {d : Date} {y n : Int}

/-! ## Years -/

/-- The days before a year. -/
def yearStart (y : Int) : Int := 365 * y + y / 4 - y / 100 + y / 400

theorem yearStart_mono {y y' : Int} (h : y ≤ y') : yearStart y ≤ yearStart y' := by
  simp only [yearStart]
  omega

theorem yearStart_add_era (y era : Int) : yearStart (y + era * 400) = yearStart y + era * 146097 := by
  simp only [yearStart]
  omega

theorem yearStart_succ (y : Int) : yearStart y + 365 ≤ yearStart (y + 1) ∧ yearStart (y + 1) ≤ yearStart y + 366 := by
  simp only [yearStart]
  omega

theorem exists_year (n : Int) : ∃ y, yearStart y ≤ n ∧ n < yearStart (y + 1) := by
  -- The year is the last one that has begun; years begin in the order of their numbers, but at no fixed distance.
  have hbound : ∃ b, ∀ y, yearStart y ≤ n → y ≤ b := by
    refine ⟨n.natAbs + 1, ?_⟩
    intro y hy
    simp only [yearStart] at hy
    omega
  have hsome : ∃ y, yearStart y ≤ n := by
    refine ⟨-n.natAbs - 1, ?_⟩
    simp only [yearStart]
    omega
  obtain ⟨y, hy, hlast⟩ := Int.exists_greatest_of_bdd hbound hsome
  refine ⟨y, hy, ?_⟩
  by_contra hnext
  have := hlast (y + 1) (Int.not_lt.1 hnext)
  omega

/-- A day of an era with the leap days up to it left out. -/
def withoutLeapDays (n : Int) : Int := n - n / 1460 + n / 36524 - n / 146096

theorem withoutLeapDays_mono {a b : Int} (h : a ≤ b) : withoutLeapDays a ≤ withoutLeapDays b := by
  have hfour (n : Int) : n / 146096 = n / 36524 / 4 := by omega
  have hcycles : b / 1460 - a / 1460 ≤ b - a := by omega
  have hcenturies : a / 36524 ≤ b / 36524 := by omega
  simp only [withoutLeapDays, hfour]
  omega

theorem withoutLeapDays_yearStart (h : 0 ≤ y) (h' : y < 400) :
    365 * y ≤ withoutLeapDays (yearStart y) ∧ withoutLeapDays (yearStart (y + 1) - 1) < 365 * (y + 1) := by
  -- Between leap years the quotients move at different days, so that the years of an era are checked one by one.
  have hall : ∀ y : Fin 400, 365 * (y : Int) ≤ withoutLeapDays (yearStart y) ∧
      withoutLeapDays (yearStart (y + 1) - 1) < 365 * ((y : Int) + 1) := by decide +kernel
  have hy : (y.toNat : Int) = y := Int.toNat_of_nonneg h
  have hyear := hall ⟨y.toNat, by omega⟩
  simpa only [hy] using hyear

/-- The year that a day of an era falls into. -/
theorem yearOfEra_eq (h : 0 ≤ y) (h' : y < 400) (hn : yearStart y ≤ n) (hn' : n < yearStart (y + 1)) :
    withoutLeapDays n / 365 = y := by
  obtain ⟨hfirst, hlast⟩ := withoutLeapDays_yearStart h h'
  have hlower := withoutLeapDays_mono hn
  have hupper := withoutLeapDays_mono (Int.le_sub_one_of_lt hn')
  omega

/-! ## Days of a year -/

/-- A year that begins in March and a day of it, as a date. -/
def ofYearDay (year dayOfYear : Int) : Date :=
  let month := (5 * dayOfYear + 2) / 153
  let day := dayOfYear - (153 * month + 2) / 5 + 1
  if month < 10 then ⟨year, (month + 3).toNat, day.toNat⟩ else ⟨year + 1, (month - 9).toNat, day.toNat⟩

theorem ofDays_eq (hn : 0 ≤ n) (hn' : yearStart y + n < yearStart (y + 1)) :
    ofDays (yearStart y + n - 719468) = ofYearDay y n := by
  obtain ⟨era, yoe, hyoe, hyoe', rfl⟩ : ∃ era yoe, 0 ≤ yoe ∧ yoe < 400 ∧ y = yoe + era * 400 :=
    ⟨y / 400, y % 400, by omega, by omega, by omega⟩
  rw [show yoe + era * 400 + 1 = yoe + 1 + era * 400 by omega, yearStart_add_era, yearStart_add_era] at hn'
  have hfirst : 0 ≤ yearStart yoe := by simp only [yearStart]; omega
  have hlast : yearStart (yoe + 1) ≤ 146097 := by simp only [yearStart]; omega
  have hshifted : yearStart (yoe + era * 400) + n - 719468 + 719468 = yearStart yoe + n + era * 146097 := by
    rw [yearStart_add_era]
    omega
  have hera : (yearStart yoe + n + era * 146097) / 146097 = era := by omega
  have hdayOfEra : (yearStart yoe + n + era * 146097) % 146097 = yearStart yoe + n := by omega
  have hyear : (yearStart yoe + n - (yearStart yoe + n) / 1460 + (yearStart yoe + n) / 36524 -
      (yearStart yoe + n) / 146096) / 365 = yoe :=
    yearOfEra_eq hyoe hyoe' (by omega) (by omega)
  have hday : yearStart yoe + n - (365 * yoe + yoe / 4 - yoe / 100) = n := by
    simp only [yearStart]
    omega
  simp only [ofDays, hshifted, hera, hdayOfEra, hyear, hday]
  rfl

/-- The year of a date, when years begin in March. -/
def marchYear (d : Date) : Int := if d.month ≤ 2 then d.year - 1 else d.year

/-- The month of such a year, March being 0. -/
def marchMonth (d : Date) : Int := if d.month ≤ 2 then d.month + 9 else d.month - 3

/-- The day of such a year, its first day being 0. -/
def dayOfYear (d : Date) : Int := (153 * d.marchMonth + 2) / 5 + d.day - 1

theorem toDays_eq (d : Date) : d.toDays = yearStart d.marchYear + d.dayOfYear - 719468 := by
  simp only [toDays, dayOfYear, marchMonth, yearStart]
  rw [← marchYear]
  omega

/-- A month ends where the next one begins, and the last one, which is February, where the year does. -/
theorem monthLength_eq (hmonth : 1 ≤ d.month) (hmonth' : d.month ≤ 12) :
    (monthLength d.year d.month : Int) =
      if d.marchMonth = 11 then yearStart (d.marchYear + 1) - yearStart d.marchYear - 337
      else (153 * (d.marchMonth + 1) + 2) / 5 - (153 * d.marchMonth + 2) / 5 := by
  obtain ⟨year, month, day⟩ := d
  simp only [marchMonth, marchYear] at *
  by_cases hfebruary : month = 2
  · simp only [hfebruary, monthLength, isLeapYear, yearStart]
    simp
    split_ifs <;> omega
  · interval_cases month
    all_goals simp [monthLength] at *

theorem marchMonth_bounds (hmonth : 1 ≤ d.month) (hmonth' : d.month ≤ 12) : 0 ≤ d.marchMonth ∧ d.marchMonth ≤ 11 := by
  simp only [marchMonth]
  omega

theorem dayOfYear_bounds (h : d.Valid) : 0 ≤ d.dayOfYear ∧
    yearStart d.marchYear + d.dayOfYear < yearStart (d.marchYear + 1) := by
  obtain ⟨hmonth, hmonth', hday, hday'⟩ := h
  have hlength := monthLength_eq hmonth hmonth'
  have hyear := yearStart_succ d.marchYear
  have hmarch := marchMonth_bounds hmonth hmonth'
  simp only [dayOfYear]
  split at hlength <;> omega

theorem ofYearDay_dayOfYear (h : d.Valid) : ofYearDay d.marchYear d.dayOfYear = d := by
  obtain ⟨hmonth, hmonth', hday, hday'⟩ := h
  have hlength := monthLength_eq hmonth hmonth'
  have hyear := yearStart_succ d.marchYear
  have hmarch := marchMonth_bounds hmonth hmonth'
  have hfound : (5 * d.dayOfYear + 2) / 153 = d.marchMonth := by
    simp only [dayOfYear]
    split at hlength <;> omega
  have hrest : (d.dayOfYear - (153 * d.marchMonth + 2) / 5 + 1).toNat = d.day := by
    simp only [dayOfYear]
    omega
  simp only [ofYearDay, hfound, hrest]
  obtain ⟨year, month, day⟩ := d
  have hfirst : 1 ≤ month := hmonth
  by_cases hearly : month ≤ 2
  · have hlate : ¬ ((month : Int) + 9 < 10) := by omega
    simp [marchYear, marchMonth, hearly, hlate]
  · have hlast : month ≤ 12 := hmonth'
    have hlate : (month : Int) - 3 < 10 := by omega
    simp [marchYear, marchMonth, hearly, hlate]

theorem ofYearDay_parts (year : Int) {n : Int} (hn : 0 ≤ n) (hn' : n ≤ 365) :
    (ofYearDay year n).marchYear = year ∧ (ofYearDay year n).dayOfYear = n := by
  simp only [ofYearDay]
  split
  · simp only [marchYear, dayOfYear, marchMonth]
    omega
  · simp only [marchYear, dayOfYear, marchMonth]
    omega

theorem valid_ofYearDay (hn : 0 ≤ n) (hn' : yearStart y + n < yearStart (y + 1)) : (ofYearDay y n).Valid := by
  have hyear := yearStart_succ y
  obtain ⟨hmarch, hday⟩ := ofYearDay_parts y hn (by omega)
  have hmonth : 1 ≤ (ofYearDay y n).month ∧ (ofYearDay y n).month ≤ 12 ∧ 1 ≤ (ofYearDay y n).day := by
    simp only [ofYearDay]
    split <;> simp only <;> omega
  have hlength := monthLength_eq hmonth.1 hmonth.2.1
  refine ⟨hmonth.1, hmonth.2.1, hmonth.2.2, ?_⟩
  have hfound : (5 * n + 2) / 153 = (ofYearDay y n).marchMonth := by
    simp only [ofYearDay]
    split <;> simp only [marchMonth] <;> omega
  rw [hmarch] at hlength
  simp only [dayOfYear] at hday
  split at hlength <;> omega

/-! ## Dates and days -/

theorem exists_yearDay (days : Int) :
    ∃ y n, 0 ≤ n ∧ yearStart y + n < yearStart (y + 1) ∧ yearStart y + n - 719468 = days := by
  obtain ⟨y, hy, hnext⟩ := exists_year (days + 719468)
  exact ⟨y, days + 719468 - yearStart y, by omega, by omega, by omega⟩

theorem toDays_ofDays (days : Int) : (ofDays days).toDays = days := by
  obtain ⟨y, n, hn, hn', rfl⟩ := exists_yearDay days
  have hyear := yearStart_succ y
  obtain ⟨hmarch, hday⟩ := ofYearDay_parts y hn (by omega)
  rw [ofDays_eq hn hn', toDays_eq, hmarch, hday]

theorem valid_ofDays (days : Int) : (ofDays days).Valid := by
  obtain ⟨y, n, hn, hn', rfl⟩ := exists_yearDay days
  rw [ofDays_eq hn hn']
  exact valid_ofYearDay hn hn'

theorem ofDays_toDays (h : d.Valid) : ofDays d.toDays = d := by
  obtain ⟨hn, hn'⟩ := dayOfYear_bounds h
  rw [toDays_eq, ofDays_eq hn hn', ofYearDay_dayOfYear h]

/-- The first of January is the 306th day of the year that began in March before. -/
theorem le_year_iff (h : d.Valid) (year : Int) : year ≤ d.year ↔ yearStart (year - 1) + 306 - 719468 ≤ d.toDays := by
  obtain ⟨hn, hn'⟩ := dayOfYear_bounds h
  obtain ⟨hmonth, hmonth', hday, hday'⟩ := h
  have hlength := monthLength_eq hmonth hmonth'
  have hearly : d.month ≤ 2 ↔ 306 ≤ d.dayOfYear := by
    have hmarch : d.month ≤ 2 ↔ 10 ≤ d.marchMonth := by
      simp only [marchMonth]
      omega
    simp only [dayOfYear]
    split at hlength <;> omega
  have hsame : year ≤ d.year → yearStart (year - 1) ≤ yearStart (d.year - 1) :=
    fun hle => yearStart_mono (Int.sub_le_sub_right hle 1)
  have hnext : d.year < year → yearStart d.year ≤ yearStart (year - 1) :=
    fun hlt => yearStart_mono (Int.le_sub_one_of_lt hlt)
  have hlast := yearStart_succ (d.year - 1)
  rw [Int.sub_add_cancel] at hlast
  rw [toDays_eq]
  by_cases hmarch : d.month ≤ 2
  · rw [show d.marchYear = d.year - 1 from if_pos hmarch] at *
    rw [Int.sub_add_cancel] at hn'
    omega
  · rw [show d.marchYear = d.year from if_neg hmarch] at *
    omega

end TokenAuthority.Date
