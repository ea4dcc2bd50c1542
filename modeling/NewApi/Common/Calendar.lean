import Mathlib.Algebra.Ring.Int.Defs

/-!
# Civil dates and local time

What the subscription periods use of Go's `time` package. An instant is its Unix time in seconds. A
location answers, for an instant, the offset in force and since when and until when.
-/

namespace NewApi.Common

def wrap64 (value : Int) : Int := (value + 2 ^ 63) % 2 ^ 64 - 2 ^ 63

theorem wrap64_fits {value} (low : -2 ^ 63 ≤ value) (high : value < 2 ^ 63) : wrap64 value = value := by
  unfold wrap64
  omega

structure ZonePeriod where
  (offset start stop : Int)
deriving DecidableEq

structure Location where
  lookup : Int → ZonePeriod

structure CivilDate where
  (year month day : Int)
deriving DecidableEq

namespace Calendar

def secondsPerDay : Int := 86400

def daysFromCivil (date : CivilDate) : Int :=
  let year := date.year + (date.month - 1) / 12
  let month := (date.month - 1) % 12 + 1
  -- Years start in March here, so that the leap day is the last day of its year.
  let shifted := if month ≤ 2 then year - 1 else year
  let era := shifted / 400
  let yearOfEra := shifted % 400
  let dayOfYear := (153 * (if month > 2 then month - 3 else month + 9) + 2) / 5 + date.day - 1
  era * 146097 + yearOfEra * 365 + yearOfEra / 4 - yearOfEra / 100 + dayOfYear - 719468

def civilFromDays (days : Int) : CivilDate :=
  let shifted := days + 719468
  let era := shifted / 146097
  let dayOfEra := shifted % 146097
  let yearOfEra := (dayOfEra - dayOfEra / 1460 + dayOfEra / 36524 - dayOfEra / 146096) / 365
  let dayOfYear := dayOfEra - (365 * yearOfEra + yearOfEra / 4 - yearOfEra / 100)
  let monthFromMarch := (5 * dayOfYear + 2) / 153
  let month := if monthFromMarch < 10 then monthFromMarch + 3 else monthFromMarch - 9
  { year := yearOfEra + era * 400 + (if month ≤ 2 then 1 else 0)
    month := month
    day := dayOfYear - (153 * monthFromMarch + 2) / 5 + 1 }

def weekdayOfDays (days : Int) : Int := (days + 4) % 7

example : daysFromCivil ⟨2000, 2, 29⟩ = 11016 := by decide
example : civilFromDays 11016 = ⟨2000, 2, 29⟩ := by decide
example : daysFromCivil ⟨2023, 13, 1⟩ = daysFromCivil ⟨2024, 1, 1⟩ := by decide

end Calendar

open Calendar

namespace Location

variable (loc : Location) (instant : Int)

def localSeconds : Int := instant + (loc.lookup instant).offset

def localDays : Int := loc.localSeconds instant / secondsPerDay

def civil : CivilDate := civilFromDays (loc.localDays instant)

def weekday : Int := weekdayOfDays (loc.localDays instant)

/-- `time.Date`, with the clock as seconds after midnight. The offset is looked up as if the wall
clock were UTC, and again when the result leaves the period found. -/
def date (loc : Location) (day : CivilDate) (clock : Int) : Int :=
  let unix := daysFromCivil day * secondsPerDay + clock
  let period := loc.lookup unix
  if period.offset = 0 then unix
  else
    let utc := unix - period.offset
    if utc < period.start ∨ period.stop ≤ utc then unix - (loc.lookup utc).offset
    else utc

def addDate (loc : Location) (instant months days : Int) : Int :=
  let today := loc.civil instant
  loc.date ⟨today.year, today.month + months, today.day + days⟩
    (loc.localSeconds instant % secondsPerDay)

/-- `AddDate` of any number of months. The seconds wrap around, where `addDate` is exact: it is for
the days and single months of the reset periods. -/
def addDate64 (loc : Location) (instant months : Int) : Int :=
  let today := loc.civil instant
  let unix := wrap64 (daysFromCivil ⟨today.year, today.month + months, today.day⟩ * secondsPerDay +
    loc.localSeconds instant % secondsPerDay)
  let period := loc.lookup unix
  if period.offset = 0 then unix
  else
    let utc := wrap64 (unix - period.offset)
    if utc < period.start ∨ period.stop ≤ utc then wrap64 (unix - (loc.lookup utc).offset)
    else utc

end Location

def utc : Location := ⟨fun _ => ⟨0, -2 ^ 63, 2 ^ 63 - 1⟩⟩

example : utc.addDate 1704067200 1 0 = 1706745600 := by decide

/-- `base.Add(time.Duration(seconds) * time.Second)`, to the second: the product is in nanoseconds
and wraps around. -/
def addSeconds (base seconds : Int) : Int := base + wrap64 (seconds * 10 ^ 9) / 10 ^ 9

end NewApi.Common
