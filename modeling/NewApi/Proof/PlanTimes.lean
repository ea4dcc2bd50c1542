import NewApi.Proof.ResetBoundary

/-! # Times computed from a plan -/

namespace NewApi.Common
open Calendar

namespace Calendar

theorem month_later (year month day : Int) : daysFromCivil ⟨year, month, day⟩ + 28 ≤
    daysFromCivil ⟨year, month + 1, day⟩ := by
  obtain ⟨years, rest, few, first, rfl⟩ : ∃ years rest, rest < 12 ∧ 0 ≤ rest ∧ month = 12 * years + rest + 1 :=
    ⟨(month - 1) / 12, (month - 1) % 12, by omega, by omega, by omega⟩
  have before : (12 * years + rest + 1 - 1) / 12 = years ∧ (12 * years + rest + 1 - 1) % 12 = rest := by omega
  have after : (12 * years + rest + 1 + 1 - 1) / 12 = years + (rest + 1) / 12 ∧
      (12 * years + rest + 1 + 1 - 1) % 12 = (rest + 1) % 12 := by omega
  simp only [daysFromCivil, before.1, before.2, after.1, after.2]
  -- A year starts in March here, so February to March is the step into the next one.
  interval_cases rest <;> simp <;> omega

theorem months_later (year month day : Int) (months : Nat) :
    daysFromCivil ⟨year, month, day⟩ + 28 * months ≤ daysFromCivil ⟨year, month + months, day⟩ := by
  induction months with
  | zero => simp
  | succ months =>
    have further := month_later year (month + months) day
    rw [show month + ((months + 1 : Nat) : Int) = month + months + 1 by push_cast; ring]
    push_cast
    omega

end Calendar

namespace Location

def dateOffset (loc : Location) (wall : Int) : Int :=
  let period := loc.lookup wall
  if period.offset = 0 then 0
  else
    let utc := wall - period.offset
    if utc < period.start ∨ period.stop ≤ utc then (loc.lookup utc).offset else period.offset

def shifted (loc : Location) (instant months days : Int) : Int :=
  daysFromCivil ⟨(loc.civil instant).year, (loc.civil instant).month + months, (loc.civil instant).day + days⟩ *
    secondsPerDay + loc.localSeconds instant % secondsPerDay

theorem addDate_eq (loc : Location) (instant months days : Int) :
    loc.addDate instant months days = loc.shifted instant months days -
      loc.dateOffset (loc.shifted instant months days) := by
  unfold addDate date shifted dateOffset
  dsimp only
  split_ifs
  · exact (sub_zero _).symm
  · rfl
  · rfl

theorem localSeconds_eq (loc : Location) (instant : Int) : loc.localSeconds instant = loc.shifted instant 0 0 := by
  show _ = daysFromCivil ⟨(loc.civil instant).year, (loc.civil instant).month + 0, (loc.civil instant).day + 0⟩ * _ + _
  rw [add_zero, add_zero, civil, daysFromCivil_civilFromDays, localDays, Int.ediv_mul_add_emod]

def Moderate (loc : Location) : Prop := ∀ instant, |(loc.lookup instant).offset| < 14 * secondsPerDay

theorem Moderate.dateOffset {loc} (moderate : Moderate loc) (wall : Int) : |loc.dateOffset wall| <
    14 * secondsPerDay := by
  unfold Location.dateOffset
  dsimp only
  split_ifs
  · decide
  · exact moderate _
  · exact moderate _

theorem Moderate.addDate_later {loc} (moderate : Moderate loc) (start : Int) {months} (some : 0 < months) :
    start < loc.addDate start months 0 := by
  obtain ⟨count, rfl⟩ := Int.eq_ofNat_of_zero_le some.le
  have days := months_later (loc.civil start).year (loc.civil start).month (loc.civil start).day count
  have here := abs_lt.mp (moderate start)
  have there := abs_lt.mp (moderate.dateOffset (loc.shifted start count 0))
  have now : start + (loc.lookup start).offset = loc.shifted start 0 0 := loc.localSeconds_eq start
  rw [addDate_eq]
  generalize loc.dateOffset (loc.shifted start count 0) = offset at there ⊢
  unfold shifted at now ⊢
  simp only [add_zero] at now ⊢
  unfold secondsPerDay at *
  omega

/-- The calendar's end is a fortnight or more before the last 64-bit second. -/
def Fits (wall : Int) : Prop := wall + 14 * secondsPerDay ≤ 2 ^ 63

/-- It is not within a fortnight of that second, and wraps around no more than once. -/
def WrapsAtMostOnce (wall : Int) : Prop :=
  Fits wall ∨ 2 ^ 63 + 14 * secondsPerDay ≤ wall ∧ wall + 28 * secondsPerDay ≤ 2 ^ 64

theorem addDate64_eq {loc} (moderate : Moderate loc) {instant months} (fits : Fits (loc.shifted instant months 0))
    (low : -14 * secondsPerDay ≤ loc.shifted instant months 0) :
    loc.addDate64 instant months = loc.addDate instant months 0 := by
  have wall : wrap64 (loc.shifted instant months 0) = loc.shifted instant months 0 := by
    unfold Fits secondsPerDay at *
    exact wrap64_fits (by omega) (by omega)
  have back (at_time : Int) : wrap64 (loc.shifted instant months 0 - (loc.lookup at_time).offset) =
      loc.shifted instant months 0 - (loc.lookup at_time).offset := by
    have := abs_lt.mp (moderate at_time)
    unfold Fits secondsPerDay at *
    exact wrap64_fits (by omega) (by omega)
  rw [shifted, add_zero] at wall back
  unfold addDate64 addDate date
  simp only [add_zero, wall, back]

theorem addDate64_wrapped {loc} (moderate : Moderate loc) {instant months}
    (beyond : 2 ^ 63 + 14 * secondsPerDay ≤ loc.shifted instant months 0)
    (once : loc.shifted instant months 0 + 28 * secondsPerDay ≤ 2 ^ 64) : loc.addDate64 instant months < 0 := by
  have wall : wrap64 (loc.shifted instant months 0) = loc.shifted instant months 0 - 2 ^ 64 := by
    unfold wrap64 secondsPerDay at *
    omega
  have back (at_time : Int) : wrap64 (loc.shifted instant months 0 - 2 ^ 64 - (loc.lookup at_time).offset) < 0 := by
    have := abs_lt.mp (moderate at_time)
    unfold secondsPerDay at *
    rw [wrap64_fits (by omega) (by omega)]
    omega
  have below : loc.shifted instant months 0 - 2 ^ 64 < 0 := by unfold secondsPerDay at once; omega
  rw [shifted, add_zero] at wall back below
  unfold addDate64
  simp only [wall]
  split_ifs
  · exact below
  · exact back _
  · exact back _

theorem lt_addDate64_iff {loc} (moderate : Moderate loc) {start months} (after : 0 ≤ start) (some : 0 < months)
    (wraps : WrapsAtMostOnce (loc.shifted start months 0)) :
    start < loc.addDate64 start months ↔ Fits (loc.shifted start months 0) := by
  have later := moderate.addDate_later start some
  constructor
  · intro ends
    refine wraps.resolve_right fun ⟨beyond, once⟩ => ?_
    have := addDate64_wrapped moderate beyond once
    omega
  · intro fits
    rwa [addDate64_eq moderate fits]
    rw [addDate_eq] at later
    have := abs_lt.mp (moderate.dateOffset (loc.shifted start months 0))
    omega

end Location

theorem addSeconds_exact_iff (base : Int) {seconds} (pos : 0 < seconds) :
    addSeconds base seconds = base + seconds ↔ seconds * 10 ^ 9 < 2 ^ 63 := by
  unfold addSeconds wrap64
  omega

theorem lt_addSeconds_iff (base seconds : Int) :
    base < addSeconds base seconds ↔ 10 ^ 9 ≤ seconds * 10 ^ 9 % 2 ^ 64 ∧ seconds * 10 ^ 9 % 2 ^ 64 < 2 ^ 63 := by
  unfold addSeconds wrap64
  generalize seconds * 10 ^ 9 = nanoseconds
  have whole := Int.le_ediv_iff_mul_le (a := 1) (b := (nanoseconds + 2 ^ 63) % 2 ^ 64 - 2 ^ 63)
    (c := 10 ^ 9) (by decide)
  omega

end NewApi.Common

namespace NewApi.Proof
open Common Model

def requestedSeconds (plan : SubscriptionPlan) : Option Int :=
  match plan.durationUnit with
  | "day" => some (plan.durationValue * 24 * 3600)
  | "hour" => some (plan.durationValue * 3600)
  | "custom" => some plan.customSeconds
  | _ => none

def requestedMonths (plan : SubscriptionPlan) : Option Int :=
  match plan.durationUnit with
  | "year" => some (12 * plan.durationValue)
  | "month" => some plan.durationValue
  | _ => none

def EndsAsAsked (loc : Location) (start : Int) (plan : SubscriptionPlan) : Prop :=
  ∀ stop, calcPlanEndTime loc start plan = .ok stop →
    start < stop ∧ ∀ seconds, requestedSeconds plan = some seconds → stop = start + seconds

theorem endsAfter_iff (start : Int) {seconds} (pos : 0 < seconds) :
    (∀ stop, (.ok (addSeconds start seconds) : Except String Int) = .ok stop →
      start < stop ∧ ∀ asked, some seconds = some asked → stop = start + asked) ↔
    ∀ asked, some seconds = some asked → asked * 10 ^ 9 < 2 ^ 63 := by
  constructor
  · rintro ends _ ⟨⟩
    exact (addSeconds_exact_iff start pos).mp ((ends _ rfl).2 _ rfl)
  · rintro fits _ ⟨⟩
    have exact := (addSeconds_exact_iff start pos).mpr (fits _ rfl)
    refine ⟨by omega, ?_⟩
    rintro _ ⟨⟩
    exact exact

/-- Neither the nanoseconds of a duration nor the seconds of a calendar end pass 64 bits. -/
def StaysWithin (loc : Location) (start : Int) (plan : SubscriptionPlan) : Prop :=
  (∀ seconds, requestedSeconds plan = some seconds → seconds * 10 ^ 9 < 2 ^ 63) ∧
    ∀ months, requestedMonths plan = some months → 0 < months → Location.Fits (loc.shifted start months 0)

theorem ends_as_asked_iff {loc} (moderate : loc.Moderate) {start : Int} (after : 0 ≤ start) (plan : SubscriptionPlan)
    (wraps : ∀ months, requestedMonths plan = some months → 0 < months →
      Location.WrapsAtMostOnce (loc.shifted start months 0)) :
    EndsAsAsked loc start plan ↔ StaysWithin loc start plan := by
  unfold EndsAsAsked calcPlanEndTime StaysWithin
  by_cases refused : plan.durationValue ≤ 0 ∧ plan.durationUnit ≠ "custom"
  · rw [if_pos refused]
    refine iff_of_true (fun _ wrong => nomatch wrong) ⟨fun _ asked => ?_, fun _ asked pos => ?_⟩
    · unfold requestedSeconds at asked
      split at asked
      · obtain rfl := Option.some.inj asked; omega
      · obtain rfl := Option.some.inj asked; omega
      · exact absurd ‹_› refused.2
      · cases asked
    · unfold requestedMonths at asked
      split at asked
      · obtain rfl := Option.some.inj asked; omega
      · obtain rfl := Option.some.inj asked; omega
      · cases asked
  · rw [if_neg refused]
    have value (other : plan.durationUnit ≠ "custom") : 0 < plan.durationValue := by
      by_contra low
      exact refused ⟨not_lt.mp low, other⟩
    split
    case h_1 unit | h_2 unit =>
      have pos := value (by rw [unit]; decide)
      have free : requestedSeconds plan = none := by simp [requestedSeconds, unit]
      simp only [free, requestedMonths, unit, Option.some.injEq, forall_eq', reduceCtorEq, false_imp_iff, implies_true,
        true_and, and_true, Except.ok.injEq] at wraps ⊢
      rw [Location.lt_addDate64_iff moderate after (by omega) (wraps (by omega))]
      exact ⟨fun fits _ => fits, fun fits => fits (by omega)⟩
    case h_3 unit | h_4 unit =>
      have pos := value (by rw [unit]; decide)
      have free : requestedMonths plan = none := by simp [requestedMonths, unit]
      simp only [free, requestedSeconds, unit, reduceCtorEq, false_imp_iff, implies_true, and_true]
      exact endsAfter_iff start (by omega)
    case h_5 unit =>
      have free : requestedMonths plan = none := by simp [requestedMonths, unit]
      simp only [free, requestedSeconds, unit, reduceCtorEq, false_imp_iff, implies_true, and_true]
      by_cases none : plan.customSeconds ≤ 0
      · rw [if_pos none]
        refine iff_of_true (fun _ wrong => nomatch wrong) ?_
        rintro _ ⟨⟩
        omega
      · rw [if_neg none]
        exact endsAfter_iff start (not_le.mp none)
    case h_6 year month day hour custom =>
      have free : requestedSeconds plan = none ∧ requestedMonths plan = none := by
        unfold requestedSeconds requestedMonths
        constructor <;> split <;> first | contradiction | rfl
      rw [free.1, free.2]
      exact iff_of_true (fun _ wrong => nomatch wrong) ⟨(fun _ wrong => nomatch wrong), (fun _ wrong => nomatch wrong)⟩

def customPlan (seconds : Int) : SubscriptionPlan := { id := 1, title := "custom", durationUnit := "custom", customSeconds := seconds }

theorem moderate_utc : utc.Moderate := fun _ => (by decide : |(0 : Int)| < 14 * Calendar.secondsPerDay)

theorem ends_as_asked_day : EndsAsAsked utc 1700000000 (customPlan 86400) :=
  (ends_as_asked_iff moderate_utc (by decide) _ (by rintro _ ⟨⟩)).mpr ⟨by rintro _ ⟨⟩; decide, by rintro _ ⟨⟩⟩

theorem long_plan_ended : ¬EndsAsAsked utc 1700000000 (customPlan 9223372037) ∧
    (calcPlanEndTime utc 1700000000 (customPlan 9223372037)).toOption = some (-7523372037) :=
  ⟨fun ends => absurd (ends (-7523372037) rfl).1 (by decide), rfl⟩

def boundaryClock (loc : Location) (base : Int) : ResetPeriod → Int
  | .weekly => loc.shifted (startOfDay loc base) 0 (8 - if loc.weekday base = 0 then 7 else loc.weekday base)
  | .monthly => loc.shifted (loc.date { loc.civil base with day := 1 } 0) 1 0
  | _ => loc.shifted (startOfDay loc base) 0 1

/-- A custom period wraps to a positive number of seconds. A period of the calendar leaves more time
on the wall clock than the zone puts it forward up to the boundary. -/
def KeepsAhead (loc : Location) (base : Int) (plan : SubscriptionPlan) : Prop :=
  match normalizeResetPeriod plan.quotaResetPeriod with
  | .never => True
  | .custom =>
    let nanoseconds := plan.quotaResetCustomSeconds * 10 ^ 9 % 2 ^ 64
    10 ^ 9 ≤ nanoseconds ∧ nanoseconds < 2 ^ 63
  | period =>
    loc.dateOffset (boundaryClock loc base period) - (loc.lookup base).offset <
      boundaryClock loc base period - loc.localSeconds base

theorem lt_addDate_iff (loc : Location) (base instant months days : Int) : base < loc.addDate instant months days ↔
    loc.dateOffset (loc.shifted instant months days) - (loc.lookup base).offset <
      loc.shifted instant months days - loc.localSeconds base := by
  rw [Location.addDate_eq]
  unfold Location.localSeconds
  omega

theorem lt_nextReset_iff {loc base plan next} (following : nextReset loc base plan = some next) :
    base < next ↔ KeepsAhead loc base plan := by
  unfold nextReset at following
  unfold KeepsAhead
  cases period : normalizeResetPeriod plan.quotaResetPeriod with
  | never =>
    rw [period] at following
    cases following
  | custom =>
    rw [period] at following
    dsimp only at following
    split_ifs at following with none
    obtain rfl := Option.some.inj following
    exact lt_addSeconds_iff base _
  | daily | weekly | monthly =>
    rw [period] at following
    obtain rfl := Option.some.inj following
    exact lt_addDate_iff loc base _ _ _

theorem catch_up_ends_when_ahead (loc : Location) (plan : SubscriptionPlan) :
    (∀ base endTime, calcNextResetTime loc base plan endTime ≠ 0 →
      (base < calcNextResetTime loc base plan endTime ↔ KeepsAhead loc base plan)) ∧
    ((∀ base, 0 < base → KeepsAhead loc base plan) → ∀ base endTime now, 0 < base → ∃ bound, ∀ fuel, bound ≤ fuel →
        catchUp loc plan endTime now fuel base (calcNextResetTime loc base plan endTime) ≠ none) := by
  constructor
  · intro base _ due
    unfold calcNextResetTime at due ⊢
    cases following : nextReset loc base plan with
    | none =>
      rw [following] at due
      exact absurd rfl due
    | some =>
      rw [following] at due
      dsimp only at due ⊢
      split_ifs at due ⊢
      · exact absurd rfl due
      · exact lt_nextReset_iff following
  · intro ahead base _ _ pos
    have advances : Advances loc plan := fun base _ pos following => (lt_nextReset_iff following).mpr (ahead base pos)
    exact ⟨_, fun fuel enough => catchUp_returns advances fuel pos enough⟩

def saoPaulo : Location :=
  ⟨fun instant => if instant < 1541300400 then ⟨-10800, 1518919200, 1541300400⟩ else ⟨-7200, 1541300400, 1550368800⟩⟩

def resetPlan (period : String) (seconds : Int) : SubscriptionPlan :=
  { id := 1, title := "reset", quotaResetPeriod := period, quotaResetCustomSeconds := seconds }

theorem catchUp_stuck {loc plan endTime now base} (due : 0 < base ∧ base ≤ now)
    (same : calcNextResetTime loc base plan endTime = base) (fuel : Nat) :
    catchUp loc plan endTime now fuel base base = none := by
  induction fuel with
  | zero => rw [catchUp, if_pos due]
  | succ _ ih => rw [catchUp, if_pos due, same, ih]

theorem catch_up_stuck : (∀ fuel, catchUp utc (resetPlan "custom" (2 ^ 55)) 0 1700000000 fuel 1600000000
      (calcNextResetTime utc 1600000000 (resetPlan "custom" (2 ^ 55)) 0) = none) ∧
    ∀ fuel, catchUp saoPaulo (resetPlan "daily" 0) 0 1700000000 fuel 1541296800
      (calcNextResetTime saoPaulo 1541296800 (resetPlan "daily" 0) 0) = none := by
  have custom : calcNextResetTime utc 1600000000 (resetPlan "custom" (2 ^ 55)) 0 = 1600000000 := by decide +kernel
  have daily : calcNextResetTime saoPaulo 1541296800 (resetPlan "daily" 0) 0 = 1541296800 := by decide +kernel
  constructor
  · intro fuel
    rw [custom]
    exact catchUp_stuck (by decide) custom fuel
  · intro fuel
    rw [daily]
    exact catchUp_stuck (by decide) daily fuel

end NewApi.Proof
