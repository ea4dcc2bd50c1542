import NewApi.Common.Calendar
import Mathlib.Tactic.Linarith
import Mathlib.Tactic.IntervalCases

/-!
# The date of a day

The date computed for a day is the date of that day, and a month ends before the next one. An era is
400 years, all of the same number of days; its years start in March.
-/

namespace NewApi.Common
namespace Calendar

def yearStart (year : Int) : Int := year * 365 + year / 4 - year / 100

def yearOfDay (day : Int) : Int := (day - day / 1460 + day / 36524 - day / 146096) / 365

def monthStart (month : Int) : Int := (153 * month + 2) / 5

def yearEnd (year : Int) : Int := if year = 399 then 146097 else yearStart (year + 1)

theorem yearOfDay_mono {day later} (ordered : day ≤ later) : yearOfDay day ≤ yearOfDay later := by
  apply Int.ediv_le_ediv (by decide)
  omega

theorem yearOfDay_edges : ∀ year : Nat, year < 400 → yearOfDay (yearStart year) = year ∧
    yearOfDay (yearEnd year - 1) = year := by
  decide +kernel

theorem yearOfDay_eq {day : Int} {year : Nat} (few : year < 400) (started : yearStart year ≤ day)
    (going : day < yearEnd year) :
    yearOfDay day = year := by
  obtain ⟨_, _⟩ := yearOfDay_edges year few
  have lower := yearOfDay_mono started
  have upper := yearOfDay_mono (Int.le_sub_one_of_lt going)
  omega

theorem exists_year {day} (nonneg : 0 ≤ day) (within : day < 146097) :
    ∃ year : Nat, year < 400 ∧ yearStart year ≤ day ∧ day < yearEnd year := by
  have search : ∀ years : Nat, years < 400 → yearStart years ≤ day ∨
      ∃ year : Nat, year < years ∧ yearStart year ≤ day ∧ day < yearStart (year + 1) := by
    intro years
    induction years with
    | zero => exact fun _ => .inl nonneg
    | succ years ih =>
      intro few
      by_cases started : yearStart (years + 1 : Nat) ≤ day
      · exact .inl started
      · rcases ih (by omega) with here | ⟨year, earlier, lies⟩
        · exact .inr ⟨years, by omega, here, by push_cast at started; omega⟩
        · exact .inr ⟨year, by omega, lies⟩
  rcases search 399 (by decide) with last | ⟨year, few, started, going⟩
  · exact ⟨399, by decide, last, by simpa [yearEnd] using within⟩
  · refine ⟨year, by omega, started, ?_⟩
    rw [yearEnd, if_neg (by omega)]
    exact going

theorem yearEnd_le (year : Nat) : yearEnd year ≤ yearStart year + 366 := by
  unfold yearEnd yearStart
  split_ifs <;> omega

structure Parts where
  era : Int
  year : Nat
  (month day : Int)
  few : year < 400
  first : 0 ≤ month
  last : month < 12
  started : 1 ≤ day
  inMonth : monthStart month + day ≤ monthStart (month + 1)
  inYear : yearStart year + monthStart month + day ≤ yearEnd year

namespace Parts

def days (parts : Parts) : Int :=
  parts.era * 146097 + yearStart parts.year + monthStart parts.month + parts.day - 1 - 719468

def date (parts : Parts) : CivilDate where
  year := parts.year + parts.era * 400 + (if parts.month < 10 then 0 else 1)
  month := if parts.month < 10 then parts.month + 3 else parts.month - 9
  day := parts.day

end Parts

theorem parts_exist (days : Int) : ∃ parts : Parts, parts.days = days := by
  obtain ⟨year, few, started, _⟩ := exists_year (Int.emod_nonneg (days + 719468) (by decide : (146097 : Int) ≠ 0))
    (Int.emod_lt_of_pos (days + 719468) (by decide))
  have length := yearEnd_le year
  have split := Int.mul_ediv_add_emod (days + 719468) 146097
  refine ⟨{ era := (days + 719468) / 146097
            year := year
            month := (5 * ((days + 719468) % 146097 - yearStart year) + 2) / 153
            day := (days + 719468) % 146097 - yearStart year -
              monthStart ((5 * ((days + 719468) % 146097 - yearStart year) + 2) / 153) + 1
            few := few
            first := by omega
            last := by omega
            started := by unfold monthStart; omega
            inMonth := by unfold monthStart; omega
            inYear := by omega }, ?_⟩
  unfold Parts.days
  dsimp only
  omega

theorem civilFromDays_parts (parts : Parts) : civilFromDays parts.days = parts.date := by
  obtain ⟨era, year, month, day, few, _, _, _, inMonth, _⟩ := parts
  have ends : yearEnd year ≤ 146097 := by
    unfold yearEnd yearStart
    split_ifs <;> omega
  have nonneg : 0 ≤ yearStart year + monthStart month := by
    unfold yearStart monthStart
    omega
  have found : yearOfDay (yearStart year + monthStart month + day - 1) = year :=
    yearOfDay_eq few (by unfold monthStart; omega) (by omega)
  have shifted : era * 146097 + yearStart year + monthStart month + day - 1 - 719468 + 719468 =
      (yearStart year + monthStart month + day - 1) + era * 146097 := by omega
  have inEra : (yearStart year + monthStart month + day - 1) / 146097 = 0 :=
    Int.ediv_eq_zero_of_lt (by omega) (by omega)
  have ofEra : (yearStart year + monthStart month + day - 1) % 146097 = yearStart year + monthStart month + day - 1 :=
    Int.emod_eq_of_lt (by omega) (by omega)
  have ofYear : yearStart year + monthStart month + day - 1 - (365 * (year : Int) + year / 4 - year / 100) =
      monthStart month + day - 1 := by
    unfold yearStart
    omega
  have ofMonth : (5 * (monthStart month + day - 1) + 2) / 153 = month := by
    unfold monthStart at inMonth ⊢
    omega
  have ofDay : monthStart month + day - 1 - (153 * month + 2) / 5 + 1 = day := by
    unfold monthStart
    omega
  unfold yearOfDay at found
  simp only [civilFromDays, Parts.days, Parts.date, shifted,
    Int.add_mul_ediv_right _ _ (by decide : (146097 : Int) ≠ 0),
    Int.add_mul_emod_self_right, inEra, ofEra, found, ofYear, ofMonth, ofDay, zero_add, CivilDate.mk.injEq, and_true]
  clear found
  split_ifs <;> omega

theorem daysFromCivil_date (parts : Parts) (more : Int) :
    daysFromCivil ⟨parts.date.year, parts.date.month, parts.date.day + more⟩ = parts.days + more := by
  obtain ⟨era, year, month, _, _, _, _, _, _, inYear⟩ := parts
  have ofYear : ((year : Int) + era * 400) / 400 = era := by omega
  have inYear : ((year : Int) + era * 400) % 400 = year := by omega
  unfold daysFromCivil Parts.days Parts.date yearStart monthStart
  by_cases early : month < 10
  · have same : (month + 3 - 1) / 12 = 0 := by omega
    have kept : (month + 3 - 1) % 12 + 1 = month + 3 := by omega
    simp only [if_pos early, same, kept]
    rw [if_neg (by omega), if_pos (by omega), add_zero, add_zero, ofYear, inYear, show month + 3 - 3 = month by omega]
    omega
  · have same : (month - 9 - 1) / 12 = 0 := by omega
    have kept : (month - 9 - 1) % 12 + 1 = month - 9 := by omega
    simp only [if_neg early, same, kept]
    rw [if_pos (by omega), if_neg (by omega), add_zero, show (year : Int) + era * 400 + 1 - 1 =
      year + era * 400 by omega,
      ofYear, inYear, show month - 9 + 9 = month by omega]
    omega

theorem daysFromCivil_civilFromDays (days : Int) : daysFromCivil (civilFromDays days) = days := by
  obtain ⟨parts, rfl⟩ := parts_exist days
  rw [civilFromDays_parts]
  simpa using daysFromCivil_date parts 0

def Parts.firstOfMonth (parts : Parts) : Parts :=
  { parts with
    day := 1
    started := le_rfl
    inMonth := by have := parts.inMonth; have := parts.started; omega
    inYear := by have := parts.inYear; have := parts.started; omega }

theorem lt_nextMonth (parts : Parts) : parts.days < daysFromCivil ⟨parts.date.year, parts.date.month + 1, 1⟩ := by
  obtain ⟨era, year, month, _, _, _, last, _, inMonth, inYear⟩ := parts
  unfold yearEnd yearStart at inYear
  unfold monthStart at inMonth inYear
  unfold daysFromCivil Parts.days Parts.date yearStart monthStart
  -- February is the last month of its year here, so the next one may start a new era.
  interval_cases month <;>
    simp only [Int.reduceLT, if_true, if_false, Int.reduceAdd, Int.reduceSub, Int.reduceDiv,
      Int.reduceMod, Int.reduceLE,
      Int.reduceMul, gt_iff_lt, add_zero] at inMonth inYear ⊢ <;>
    omega

end Calendar

open Calendar

@[simp] theorem utc_date (day : CivilDate) (clock : Int) :
    utc.date day clock = daysFromCivil day * secondsPerDay + clock := rfl

@[simp] theorem utc_localSeconds (instant : Int) : utc.localSeconds instant = instant := add_zero instant

@[simp] theorem utc_civil (instant : Int) : utc.civil instant = civilFromDays (instant / secondsPerDay) := by
  simp [Location.civil, Location.localDays]

theorem utc_addDate (instant months days : Int) : utc.addDate instant months days =
    daysFromCivil ⟨(utc.civil instant).year, (utc.civil instant).month + months, (utc.civil instant).day + days⟩ *
      secondsPerDay + instant % secondsPerDay := by
  rw [Location.addDate, utc_localSeconds, utc_date]

theorem utc_addDate_days (day more : Int) : utc.addDate (day * secondsPerDay) 0 more =
    (day + more) * secondsPerDay := by
  obtain ⟨_, rfl⟩ := parts_exist day
  rw [utc_addDate, utc_civil, Int.mul_ediv_cancel _ (by decide), Int.mul_emod_left,
    civilFromDays_parts, add_zero, add_zero,
    daysFromCivil_date]

theorem utc_addDate_month (parts : Parts) :
    (parts.days + 1) * secondsPerDay ≤ utc.addDate (parts.firstOfMonth.days * secondsPerDay) 1 0 := by
  rw [utc_addDate, utc_civil, Int.mul_ediv_cancel _ (by decide), Int.mul_emod_left,
    civilFromDays_parts, add_zero, add_zero]
  have later := lt_nextMonth parts
  have same : (⟨parts.firstOfMonth.date.year, parts.firstOfMonth.date.month + 1,
    parts.firstOfMonth.date.day⟩ : CivilDate) =
    ⟨parts.date.year, parts.date.month + 1, 1⟩ := rfl
  rw [same]
  unfold secondsPerDay
  omega

end NewApi.Common
