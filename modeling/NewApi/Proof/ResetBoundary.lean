import NewApi.Common.CivilDate
import NewApi.Proof.PeriodLedger
import NewApi.Proof.ResetTask

/-! # One reset for each boundary -/

namespace NewApi.Proof
open Library Common Model Calendar Option Explains
variable {plan : SubscriptionPlan} {now : Int}

-- Comparing two rows should not compute the calendar.
attribute [local irreducible] calcNextResetTime

inductive Schedule (loc : Location) (plan : SubscriptionPlan) (endTime anchor : Int) : Int → Prop
  | anchor : Schedule loc plan endTime anchor anchor
  | next {base} (scheduled : Schedule loc plan endTime anchor base)
      (further : 0 < calcNextResetTime loc base plan endTime) :
      Schedule loc plan endTime anchor (calcNextResetTime loc base plan endTime)

def Boundary (loc : Location) (plan : SubscriptionPlan) (endTime anchor instant : Int) : Prop :=
  0 < instant ∧ ∃ base, Schedule loc plan endTime anchor base ∧ instant = calcNextResetTime loc base plan endTime

/-- The next reset time lies after the instant it is computed from, unless a clock change at
midnight or a custom period too long for nanoseconds breaks this. -/
def Advances (loc : Location) (plan : SubscriptionPlan) : Prop :=
  ∀ base next, 0 < base → nextReset loc base plan = some next → base < next

section CatchUp
variable {loc : Location} {endTime anchor base : Int}

theorem calcNextResetTime_later (advances : Advances loc plan) (pos : 0 < base) (endTime : Int) :
    calcNextResetTime loc base plan endTime = 0 ∨ base < calcNextResetTime loc base plan endTime := by
  unfold calcNextResetTime
  cases following : nextReset loc base plan with
  | none => exact .inl rfl
  | some next =>
    dsimp only
    split_ifs
    · exact .inl rfl
    · exact .inr (advances base next pos following)

theorem catchUp_passes (fuel : Nat) {last next} (scheduled : Schedule loc plan endTime anchor base)
    (due : 0 < calcNextResetTime loc base plan endTime ∧ calcNextResetTime loc base plan endTime ≤ now)
    (caught : catchUp loc plan endTime now fuel base (calcNextResetTime loc base plan endTime) = some (last, next)) :
    Schedule loc plan endTime anchor last ∧ 0 < last ∧ last ≤ now ∧ next = calcNextResetTime loc last plan endTime := by
  induction fuel generalizing base with
  | zero =>
    rw [catchUp, if_pos due] at caught
    cases caught
  | succ fuel ih =>
    rw [catchUp, if_pos due] at caught
    have passed := scheduled.next due.1
    by_cases again : 0 < calcNextResetTime loc (calcNextResetTime loc base plan endTime) plan endTime ∧
        calcNextResetTime loc (calcNextResetTime loc base plan endTime) plan endTime ≤ now
    · exact ih passed again caught
    · cases fuel <;>
      · rw [catchUp, if_neg again] at caught
        cases caught
        exact ⟨passed, due.1, due.2, rfl⟩

theorem catchUp_stays (fuel : Nat) {next} (waiting : ¬(0 < next ∧ next ≤ now)) :
    catchUp loc plan endTime now fuel base next = some (base, next) := by
  cases fuel <;> rw [catchUp, if_neg waiting]

theorem catchUp_returns (advances : Advances loc plan) (fuel : Nat) (pos : 0 < base)
    (enough : (now - base).toNat ≤ fuel) :
    catchUp loc plan endTime now fuel base (calcNextResetTime loc base plan endTime) ≠ none := by
  induction fuel generalizing base with
  | zero =>
    rcases calcNextResetTime_later advances pos endTime with none | later
    · simp [catchUp, none]
    · rw [catchUp, if_neg (by omega)]
      exact some_ne_none _
  | succ _ ih =>
    rw [catchUp]
    split_ifs with due
    · rcases calcNextResetTime_later advances pos endTime with none | later
      · omega
      · exact ih due.1 (by omega)
    · exact some_ne_none _

end CatchUp

/-! ## Boundaries in UTC -/

theorem utc_startOfDay (base : Int) : startOfDay utc base = base / Calendar.secondsPerDay * Calendar.secondsPerDay := by
  rw [startOfDay, utc_date, utc_civil, daysFromCivil_civilFromDays, add_zero]

theorem lt_endOfDay (base : Int) : base < (base / secondsPerDay + 1) * secondsPerDay := by
  unfold Calendar.secondsPerDay
  omega

theorem addSeconds_eq {base seconds} (pos : 0 < seconds) (fits : seconds * 10 ^ 9 < 2 ^ 63) :
    addSeconds base seconds = base + seconds := by
  unfold addSeconds wrap64
  omega

theorem advances_utc {plan} (fits : plan.quotaResetCustomSeconds * 10 ^ 9 < 2 ^ 63) : Advances utc plan := by
  intro base _ _ next
  unfold nextReset at next
  cases period : normalizeResetPeriod plan.quotaResetPeriod with
  | never =>
    rw [period] at next
    cases next
  | daily =>
    rw [period] at next
    obtain rfl := some.inj next
    rw [utc_startOfDay, utc_addDate_days]
    exact lt_endOfDay base
  | weekly =>
    rw [period] at next
    obtain rfl := some.inj next
    have today := lt_endOfDay base
    have week : 0 ≤ utc.weekday base ∧ utc.weekday base < 7 := by
      unfold Location.weekday weekdayOfDays
      omega
    rw [utc_startOfDay, utc_addDate_days]
    unfold secondsPerDay at today ⊢
    split_ifs <;> omega
  | monthly =>
    rw [period] at next
    obtain rfl := some.inj next
    obtain ⟨parts, days⟩ := parts_exist (base / secondsPerDay)
    have first : utc.date { utc.civil base with day := 1 } 0 = parts.firstOfMonth.days * secondsPerDay := by
      have date := daysFromCivil_date parts.firstOfMonth 0
      rw [add_zero, add_zero] at date
      rw [utc_date, utc_civil, ← days, civilFromDays_parts, ← date, add_zero]
      rfl
    rw [first]
    have today := lt_endOfDay base
    rw [← days] at today
    exact today.trans_le (utc_addDate_month parts)
  | custom =>
    rw [period] at next
    dsimp only at next
    split_ifs at next with none
    obtain rfl := some.inj next
    rw [addSeconds_eq (not_le.mp none) fits]
    omega

/-! ## What a reset check finds -/

structure Clocked where
  row : UserSubscription
  (zeroedAt anchor : Int)

namespace Clocked

def step (env : SubscriptionEnv) (clocked : Clocked) (entry : RowEntry) : Clocked where
  row := entry.apply env clocked.row
  zeroedAt := match entry.write with
    | .check plan => if resetsQuota env entry.now clocked.row plan then entry.now else clocked.zeroedAt
    | .adminReset _ _ => entry.now
    | _ => clocked.zeroedAt
  anchor := match entry.write with
    | .adminReset _ true => entry.now
    | _ => clocked.anchor

/-- An administrator starts a period anew only if another one follows, or none ever did, and else
resets only what no passed boundary will reset. -/
def Prompt (env : SubscriptionEnv) (clocked : Clocked) (entry : RowEntry) : Prop :=
  match entry.write with
  | .adminReset plan true =>
    0 < calcNextResetTime env.location entry.now plan clocked.row.endTime ∨
      calcNextResetTime env.location clocked.row.startTime plan clocked.row.endTime = 0
  | .adminReset _ false => ¬SubscriptionStore.ResetDue entry.now clocked.row
  | _ => True

structure Scheduled (loc : Location) (plan : SubscriptionPlan) (now : Int) (clocked : Clocked) : Prop where
  start : 0 < clocked.row.startTime
  started : clocked.row.startTime ≤ now
  next : clocked.row.nextResetTime = calcNextResetTime loc (resetBase clocked.row) plan clocked.row.endTime
  base : resetBase clocked.row ≤ clocked.zeroedAt
  zeroed : clocked.zeroedAt ≤ now
  waits : clocked.row.nextResetTime = 0 ∨ clocked.zeroedAt < clocked.row.nextResetTime
  anchored : 0 < clocked.row.nextResetTime → Schedule loc plan clocked.row.endTime clocked.anchor
    (resetBase clocked.row)

end Clocked

def UsesPlan (plan : SubscriptionPlan) : RowWrite → Prop
  | .check used => used = plan
  | .adminReset used _ => used = plan
  | .cancel => False
  | _ => True

section Check
variable {env : SubscriptionEnv} {clocked : Clocked}

variable (scheduled : clocked.Scheduled env.location plan now)

include scheduled in
theorem resetBase_pos : 0 < resetBase clocked.row := by
  unfold resetBase
  split_ifs with unset
  · exact scheduled.start
  · exact not_le.mp unset

def passedRow (sub : UserSubscription) (last next : Int) : UserSubscription :=
  { sub with amountUsed := 0, lastResetTime := last, nextResetTime := next }

theorem resetBase_passedRow (sub) {last} (next : Int) (pos : 0 < last) :
    resetBase (passedRow sub last next) = last := if_neg (not_le.mpr pos)

include scheduled in
theorem outcome_written {row} (written : resetOutcome env clocked.row plan now = some (some row)) :
    SubscriptionStore.ResetDue now clocked.row ∧ resetsQuota env now clocked.row plan = true ∧ ∃ last,
      row = passedRow clocked.row last (calcNextResetTime env.location last plan clocked.row.endTime) ∧
      0 < last ∧ last ≤ now ∧ Schedule env.location plan clocked.row.endTime clocked.anchor last ∧
      ¬(0 < row.nextResetTime ∧ row.nextResetTime ≤ now) := by
  have outcome := written
  unfold resetOutcome at written
  split_ifs at written with future never
  · simp at written
  · simp at written
  · obtain ⟨⟨last, _⟩, caught, wrote⟩ := map_eq_some_iff.mp written
    have next_eq := scheduled.next
    unfold resetRow at wrote
    split_ifs at wrote with due unset
    · have anchored := scheduled.anchored (next_eq ▸ due.1)
      obtain ⟨passed, pos, reached, rfl⟩ := catchUp_passes _ anchored due caught
      have beyond := catchUp_ends _ caught
      obtain rfl := some.inj wrote
      refine ⟨by rw [SubscriptionStore.ResetDue, next_eq]; exact due, ?_, last, rfl, pos, reached, passed, beyond⟩
      simp [resetsQuota, outcome, due]
    · rw [catchUp_stays _ due] at caught
      cases caught
      rw [← next_eq] at unset
      omega

theorem resetsQuota_written (resets : resetsQuota env now clocked.row plan = true) :
    ∃ row, resetOutcome env clocked.row plan now = some (some row) := by
  simp only [resetsQuota, Bool.and_eq_true, isSome_iff_exists, join_eq_some_iff] at resets
  exact resets.1

include scheduled in
theorem resetsQuota_boundary (resets : resetsQuota env now clocked.row plan = true) :
    ∃ boundary, Boundary env.location plan clocked.row.endTime clocked.anchor boundary ∧
      clocked.zeroedAt < boundary ∧ boundary ≤ now := by
  obtain ⟨row, written⟩ := resetsQuota_written resets
  obtain ⟨due, -⟩ := outcome_written scheduled written
  refine ⟨clocked.row.nextResetTime, ⟨due.1, _, scheduled.anchored due.1, scheduled.next⟩, ?_, due.2⟩
  exact scheduled.waits.resolve_left due.1.ne'

theorem not_due_later (advances : Advances env.location plan) {last} (pos : 0 < last) {endTime}
    (beyond : ¬(0 < calcNextResetTime env.location last plan endTime ∧
    calcNextResetTime env.location last plan endTime ≤ now)) :
    calcNextResetTime env.location last plan endTime = 0 ∨ now < calcNextResetTime env.location last plan endTime := by
  rcases calcNextResetTime_later advances pos endTime with none | later
  · exact .inl none
  · omega

include scheduled in
theorem outcome_waiting (waiting : clocked.row.nextResetTime = 0 ∨ now < clocked.row.nextResetTime) :
    resetOutcome env clocked.row plan now = some none := by
  unfold resetOutcome
  have next_eq := scheduled.next
  have notDue : ¬(0 < calcNextResetTime env.location (resetBase clocked.row) plan clocked.row.endTime ∧
      calcNextResetTime env.location (resetBase clocked.row) plan clocked.row.endTime ≤ now) := by
    rw [← next_eq]
    omega
  split_ifs with future never
  · rfl
  · rfl
  · simp only [catchUp_stays _ notDue, map_some, resetRow, if_neg notDue]
    rw [if_neg]
    rw [← next_eq]
    omega

theorem scheduled_check (advances : Advances env.location plan) (request : String)
    (scheduled : clocked.Scheduled env.location plan now) :
    (clocked.step env ⟨now, request, .check plan⟩).Scheduled env.location plan now := by
  rcases outcome : resetOutcome env clocked.row plan now with _ | _ | row
  · have same : clocked.step env ⟨now, request, .check plan⟩ = clocked := by
      simp [Clocked.step, RowEntry.apply, RowWrite.apply, resetsQuota, outcome]
    rwa [same]
  · have same : clocked.step env ⟨now, request, .check plan⟩ = clocked := by
      simp [Clocked.step, RowEntry.apply, RowWrite.apply, resetsQuota, outcome]
    rwa [same]
  · obtain ⟨_, resets, last, rfl, pos, reached, passed, beyond⟩ := outcome_written scheduled outcome
    have moved : clocked.step env ⟨now, request, .check plan⟩ =
        ⟨passedRow clocked.row last (calcNextResetTime env.location last plan clocked.row.endTime),
          now, clocked.anchor⟩ := by
      simp only [Clocked.step, RowEntry.apply, RowWrite.apply, outcome, resets, getD_some, if_true]
    have base_eq := resetBase_passedRow clocked.row (calcNextResetTime env.location last plan clocked.row.endTime) pos
    rw [moved]
    exact
      { start := scheduled.start
        started := scheduled.started
        next := by rw [base_eq]; rfl
        base := by rw [base_eq]; exact reached
        zeroed := le_rfl
        waits := not_due_later advances pos beyond
        anchored := fun _ => by rw [base_eq]; exact passed }

theorem scheduled_adminReset (advances : Advances env.location plan) (request : String) (advance : Bool)
    (scheduled : clocked.Scheduled env.location plan now)
    (prompt : clocked.Prompt env ⟨now, request, .adminReset plan advance⟩) :
    (clocked.step env ⟨now, request, .adminReset plan advance⟩).Scheduled env.location plan now := by
  cases advance with
  | false =>
    have waiting : ¬SubscriptionStore.ResetDue now clocked.row := prompt
    rw [SubscriptionStore.ResetDue, scheduled.next] at waiting
    have later := not_due_later advances (resetBase_pos scheduled) waiting
    exact
      { start := scheduled.start
        started := scheduled.started
        next := scheduled.next
        base := scheduled.base.trans scheduled.zeroed
        zeroed := le_rfl
        waits := scheduled.next ▸ later
        anchored := scheduled.anchored }
  | true =>
    have pos : 0 < now := scheduled.start.trans_le scheduled.started
    rcases calcNextResetTime_later advances pos clocked.row.endTime with none | later
    · have never := prompt.resolve_left (by simp [none])
      have row_eq : (clocked.step env ⟨now, request, .adminReset plan true⟩).row =
          { clocked.row with amountUsed := 0, nextResetTime := 0, lastResetTime := 0 } := by
        simp [Clocked.step, RowEntry.apply, RowWrite.apply, adminResetRow, none]
      have base_eq : resetBase (clocked.step env ⟨now, request, .adminReset plan true⟩).row =
        clocked.row.startTime := by
        rw [row_eq]
        rfl
      exact
        { start := by rw [row_eq]; exact scheduled.start
          started := by rw [row_eq]; exact scheduled.started
          next := by rw [base_eq, row_eq]; exact never.symm
          base := by rw [base_eq]; exact scheduled.started
          zeroed := le_rfl
          waits := by rw [row_eq]; exact .inl rfl
          anchored := by rw [row_eq]; exact fun bad => absurd bad (lt_irrefl 0) }
    · have further := pos.trans later
      have row_eq : (clocked.step env ⟨now, request, .adminReset plan true⟩).row =
          { clocked.row with
            amountUsed := 0
            nextResetTime := calcNextResetTime env.location now plan clocked.row.endTime
            lastResetTime := now } := by
        simp [Clocked.step, RowEntry.apply, RowWrite.apply, adminResetRow, further]
      have base_eq : resetBase (clocked.step env ⟨now, request, .adminReset plan true⟩).row = now := by
        rw [row_eq]
        exact if_neg (not_le.mpr pos)
      exact
        { start := by rw [row_eq]; exact scheduled.start
          started := by rw [row_eq]; exact scheduled.started
          next := by rw [base_eq, row_eq]
          base := by rw [base_eq]; exact le_rfl
          zeroed := le_rfl
          waits := by rw [row_eq]; exact .inr later
          anchored := by rw [base_eq]; exact fun _ => .anchor }

theorem scheduled_frame {row} (scheduled : clocked.Scheduled env.location plan now)
    (same : ∃ used status, row = { clocked.row with amountUsed := used, status := status }) :
    Clocked.Scheduled env.location plan now ⟨row, clocked.zeroedAt, clocked.anchor⟩ := by
  obtain ⟨_, _, rfl⟩ := same
  exact ⟨scheduled.start, scheduled.started, scheduled.next, scheduled.base, scheduled.zeroed,
    scheduled.waits, scheduled.anchored⟩

theorem scheduled_step (advances : Advances env.location plan) (entry)
    (scheduled : clocked.Scheduled env.location plan entry.now)
    (allowed : UsesPlan plan entry.write ∧ clocked.Prompt env entry) :
    (clocked.step env entry).Scheduled env.location plan entry.now := by
  obtain ⟨uses, prompt⟩ := allowed
  rcases entry with ⟨_, request, write⟩
  cases write with
  | check used =>
    obtain rfl : used = plan := uses
    exact scheduled_check advances request scheduled
  | adminReset used advance =>
    obtain rfl : used = plan := uses
    exact scheduled_adminReset advances request advance scheduled prompt
  | cancel => exact uses.elim
  | charge amount | adjust delta | expire =>
    apply scheduled_frame scheduled
    simp only [RowEntry.apply, RowWrite.apply]
    split_ifs <;> exact ⟨_, _, rfl⟩

end Check

/-! ## In every run -/

section Run
variable {env : OrderEnv} {id : Int} {state : SubscriptionState} {sub : UserSubscription}

theorem step_plans (env : OrderEnv) (state : SubscriptionState) (event : SubscriptionEvent) :
    (state.step env event).store.subscriptions.plans = state.store.subscriptions.plans := by
  cases event with
  | purchase => exact purchase_subscriptions (fun store =>
      store.plans = state.store.subscriptions.plans) rfl fun _ _ => rfl
  | delete other faults =>
    rw [SubscriptionState.step, SubscriptionState.onStore]
    rcases Db.relates_run (delete_rows other state.now) faults state.store with kept | deleted
    · rw [kept]
    · rw [deleted]
      rfl
  | _ => exact (step_evolves (by simp) (by simp)).plans

def Coherent (env : SubscriptionEnv) (store : SubscriptionStore) : Prop :=
  ∀ planId plan, planOf env store planId = some plan → plan.id = planId

theorem coherent_of_cache {env} (cached : ∀ planId plan, env.planCache planId = some plan → plan.id = planId)
    (store) : Coherent env store := by
  intro planId plan looked
  unfold planOf at looked
  split_ifs at looked
  rcases or_eq_some_iff.mp looked with hit | ⟨-, stored⟩
  · exact cached planId plan hit
  · exact (Table.find?_eq_some.mp stored).2

theorem writes_uses (found : state.row id = some sub)
    (planned : planOf env.subscriptions state.store.subscriptions sub.planId = some plan)
    (coherent : Coherent env.subscriptions state.store.subscriptions) {event}
    (kept : ∀ faults, event ≠ .invalidate id faults) {write}
    (allowed : Writes env.subscriptions state event id write) : UsesPlan plan write := by
  have checks : Checks env.subscriptions state.store.subscriptions id write → UsesPlan plan write := by
    rintro ⟨_, _, stored, looked, rfl⟩
    obtain rfl := mem_unique found stored
    exact mem_unique looked planned
  have resets : ∀ planId advance, AdminResets env.subscriptions state.now state.store.subscriptions
    planId advance id write →
      UsesPlan plan write := by
    rintro planId _ ⟨_, used, stored, -, -, looked, same, rfl⟩
    obtain rfl := mem_unique found stored
    rw [coherent planId used looked] at same
    rw [same] at planned
    exact mem_unique looked planned
  cases event with
  | preConsume =>
    rcases allowed with checked | rfl
    · exact checks checked
    · trivial
  | postConsume =>
    obtain ⟨-, rfl⟩ := allowed
    trivial
  | refund =>
    obtain ⟨_, -, -, -, rfl⟩ := allowed
    trivial
  | resetDue => exact checks allowed
  | adminResetUser _ planId advance => exact resets planId advance allowed
  | adminResetPlan planId advance => exact resets planId advance allowed
  | expire =>
    obtain rfl := allowed
    trivial
  | invalidate _ faults =>
    obtain ⟨rfl, -⟩ := allowed
    exact absurd rfl (kept faults)
  | _ => exact allowed.elim

theorem explains_uses {calls entries} (explains : Explains env id state calls entries)
    (found : state.row id = some sub) (planned : planOf env.subscriptions state.store.subscriptions
    sub.planId = some plan)
    (coherent : Coherent env.subscriptions state.store.subscriptions)
    (kept : ∀ call ∈ calls, ∀ faults, call.event ≠ .invalidate id faults) :
    ∀ entry ∈ entries, UsesPlan plan entry.write := by
  induction explains generalizing sub with
  | nil => simp
  | @cons state call _ writes _ allowed row _ ih =>
    intro entry mem
    rcases List.mem_append.mp mem with here | later
    · obtain ⟨write, written, rfl⟩ := List.mem_map.mp here
      exact writes_uses found planned coherent (kept call (by simp)) (allowed write written)
    · have plans : ∀ planId, planOf env.subscriptions (callStep env state call).store.subscriptions planId =
          planOf env.subscriptions state.store.subscriptions planId := by
        intro planId
        rw [planOf, callStep, step_plans, planOf]
      rw [found, map_some] at row
      have samePlan : (writes.foldl (RowWrite.apply env.subscriptions state.now) sub).planId = sub.planId :=
        foldl_apply (fun row => row.planId = sub.planId)
          (fun row write _ same => (apply_planId env.subscriptions state.now row write).trans same) rfl
      refine ih row ?_ ?_ (fun other mem => kept other (by simp [mem])) entry later
      · rw [samePlan, plans, planned]
      · intro planId used looked
        rw [plans] at looked
        exact coherent planId used looked

theorem run_clocked_row (env) (entries : List RowEntry) (clocked) :
    (run (Clocked.step env) clocked entries).row = run (RowEntry.apply env) clocked.row entries := by
  induction entries generalizing clocked with
  | nil => rfl
  | cons _ _ ih => exact ih _

theorem scheduled_created {userId endUnix source prevGroup}
    (advances : Advances env.subscriptions.location plan) (pos : 0 < state.now) :
    Clocked.Scheduled env.subscriptions.location plan state.now
      ⟨{ planSubscription env userId plan source state.now endUnix prevGroup with id := id },
        state.now, state.now⟩ := by
  have base_eq :
    resetBase { planSubscription env userId plan source state.now endUnix prevGroup with id :=
    id } = state.now := by
    unfold resetBase
    split_ifs with unset
    · rfl
    · simp only [planSubscription] at unset ⊢
      split_ifs at unset ⊢
      · rfl
      · exact absurd le_rfl unset
  have later := calcNextResetTime_later advances pos endUnix
  exact
    { start := pos
      started := le_rfl
      next := by rw [base_eq]; rfl
      base := by rw [base_eq]
      zeroed := le_rfl
      waits := later
      anchored := fun _ => by rw [base_eq]; exact .anchor }

end Run

structure ResetsOnce (env : SubscriptionEnv) (plan : SubscriptionPlan) (now : Int) (clocked : Clocked) : Prop where
  boundary : resetsQuota env now clocked.row plan = true →
    ∃ boundary, Boundary env.location plan clocked.row.endTime clocked.anchor boundary ∧ clocked.zeroedAt < boundary ∧
      boundary ≤ now
  call : ∀ (faults : Faults Unit String) (store after : SubscriptionStore) (row : UserSubscription),
    maybeResetUserSubscriptionWithPlanTx env clocked.row plan now faults store = (.ok row, after) →
      row.amountUsed = (if resetsQuota env now clocked.row plan then 0 else clocked.row.amountUsed) ∧
      row.lastResetTime ≤ now ∧ (row.nextResetTime = 0 ∨ now < row.nextResetTime) ∧
      ∀ (again : Faults Unit String) (other : SubscriptionStore),
        maybeResetUserSubscriptionWithPlanTx env row plan now again other = (.ok row, other)
  returns : now ≤ env.catchUpBound → ∀ (faults : Faults Unit String) (store : SubscriptionStore),
    faults () = none → ∃ row after,
      maybeResetUserSubscriptionWithPlanTx env clocked.row plan now faults store = (.ok row, after)

section Once
variable {env : SubscriptionEnv} {clocked : Clocked}

theorem outcome_unwritten (advances : Advances env.location plan) (scheduled : clocked.Scheduled env.location plan now)
    (unwritten : resetOutcome env clocked.row plan now = some none) :
    clocked.row.nextResetTime = 0 ∨ now < clocked.row.nextResetTime := by
  have next_eq := scheduled.next
  rw [next_eq]
  apply not_due_later advances (resetBase_pos scheduled)
  intro due
  unfold resetOutcome at unwritten
  split_ifs at unwritten with future never
  · rw [← next_eq] at due
    omega
  · -- Without a period there is no next reset time that could be due.
    have none : calcNextResetTime env.location (resetBase clocked.row) plan clocked.row.endTime = 0 := by
      rw [calcNextResetTime, nextReset, never]
    omega
  · obtain ⟨_, -, wrote⟩ := map_eq_some_iff.mp unwritten
    rw [resetRow, if_pos due] at wrote
    cases wrote

theorem maybeReset_row {sub row faults store after}
    (ran : maybeResetUserSubscriptionWithPlanTx env sub plan now faults store = (.ok row, after)) :
    ∃ written, resetOutcome env sub plan now = some written ∧ row = written.getD sub := by
  unfold maybeResetUserSubscriptionWithPlanTx at ran
  rcases outcome : resetOutcome env sub plan now with _ | _ | written
  · rw [outcome] at ran
    cases (Db.diverge_eq.mp ran).1
  · rw [outcome] at ran
    cases (Db.pure_eq.mp ran).1
    exact ⟨none, rfl, rfl⟩
  · rw [outcome] at ran
    obtain ⟨_, _, -, ret⟩ := Db.bind_eq_ok.mp ran
    cases (Db.pure_eq.mp ret).1
    exact ⟨some row, rfl, rfl⟩

section Advances
variable (advances : Advances env.location plan)
include advances

section
variable (scheduled : clocked.Scheduled env.location plan now)
include scheduled

theorem resetsOnce_call {faults store after row}
    (ran : maybeResetUserSubscriptionWithPlanTx env clocked.row plan now faults store = (.ok row, after)) :
    row.lastResetTime ≤ now ∧ (row.nextResetTime = 0 ∨ now < row.nextResetTime) ∧
      ∀ (again : Faults Unit String) (other : SubscriptionStore),
        maybeResetUserSubscriptionWithPlanTx env row plan now again other = (.ok row, other) := by
  obtain ⟨written, outcome, row_eq⟩ := maybeReset_row ran
  have checked := scheduled_check advances "" scheduled
  have applied : (clocked.step env ⟨now, "", .check plan⟩).row = row := by
    simp [Clocked.step, RowEntry.apply, RowWrite.apply, outcome, row_eq]
  have waiting : row.nextResetTime = 0 ∨ now < row.nextResetTime := by
    cases written with
    | none =>
      rw [row_eq]
      exact outcome_unwritten advances scheduled outcome
    | some =>
      obtain ⟨-, -, _, same, pos, -, -, beyond⟩ := outcome_written scheduled outcome
      rw [row_eq, getD_some, same]
      rw [same] at beyond
      exact not_due_later advances pos beyond
  have recent : row.lastResetTime ≤ now := by
    have base := checked.base.trans checked.zeroed
    have started := checked.start.trans_le checked.started
    rw [applied, resetBase] at base
    split_ifs at base <;> omega
  refine ⟨recent, waiting, fun _ _ => ?_⟩
  rw [← applied] at waiting ⊢
  rw [maybeResetUserSubscriptionWithPlanTx, outcome_waiting checked waiting]
  rfl

theorem resetsOnce_returns (enough : now ≤ env.catchUpBound) {faults} (noFault : faults () = none) (store) :
    ∃ row after, maybeResetUserSubscriptionWithPlanTx env clocked.row plan now faults store = (.ok row, after) := by
  have pos := resetBase_pos scheduled
  have ends : resetOutcome env clocked.row plan now ≠ none := by
    unfold resetOutcome
    split_ifs
    · exact some_ne_none _
    · exact some_ne_none _
    · rw [Ne, map_eq_none_iff]
      exact catchUp_returns advances _ pos (by omega)
  unfold maybeResetUserSubscriptionWithPlanTx
  rcases outcome : resetOutcome env clocked.row plan now with _ | _ | written
  · exact absurd outcome ends
  · exact ⟨_, _, rfl⟩
  · exact ⟨written, _, Db.bind_eq_ok.mpr ⟨(), _, Db.execute_eq_ok.mpr ⟨noFault, rfl⟩, rfl⟩⟩

theorem resetsOnce_of_scheduled : ResetsOnce env plan now clocked where
  boundary := resetsQuota_boundary scheduled
  call faults store after row ran := by
    obtain ⟨_, outcome, row_eq⟩ := maybeReset_row ran
    refine ⟨?_, resetsOnce_call advances scheduled ran⟩
    rw [← check_used, RowWrite.apply, outcome, row_eq]
    rfl
  returns enough faults store noFault := resetsOnce_returns advances scheduled enough noFault store

end

end Advances

end Once

/-- With advancing reset times and prompt administrators a check zeroes the used amount only for a
boundary since it was zero, and leaves nothing to do for another one. -/
theorem one_reset_per_boundary {env : OrderEnv} {state : SubscriptionState} {id userId endUnix : Int}
    {plan : SubscriptionPlan} {source : SubscriptionSource} {prevGroup : String} {sub : UserSubscription}
    (advances : Advances env.subscriptions.location plan) (positive : 0 < state.now)
    (created : sub = { planSubscription env userId plan source state.now endUnix prevGroup with id := id })
    (found : state.row id = some sub) (planned : planOf env.subscriptions state.store.subscriptions plan.id = some plan)
    (cached : ∀ planId plan, env.subscriptions.planCache planId = some plan → plan.id = planId)
    (calls : List SubscriptionCall)
    (kept : ∀ call ∈ calls, ∀ faults, call.event ≠ .delete id faults ∧ call.event ≠ .invalidate id faults) :
    (∃ entries, Explains env id state calls entries) ∧ ∀ entries, Explains env id state calls entries →
      Along (Clocked.step env.subscriptions) (Clocked.Prompt env.subscriptions) ⟨sub, state.now, state.now⟩ entries →
      let reached := run (callStep env) state calls
      let clocked := run (Clocked.step env.subscriptions) ⟨sub, state.now, state.now⟩ entries
      reached.row id = some clocked.row ∧ ResetsOnce env.subscriptions plan reached.now clocked := by
  refine ⟨explained calls (fun call mem faults => (kept call mem faults).1) found, ?_⟩
  intro entries explains prompt
  refine ⟨by rw [run_clocked_row]; exact explains_row explains found, ?_⟩
  apply resetsOnce_of_scheduled advances
  have uses : ∀ entry ∈ entries, UsesPlan plan entry.write := by
    apply explains_uses explains found _ (coherent_of_cache cached _) fun call mem faults => (kept call mem faults).2
    rw [created]
    exact planned
  apply explains_invariant (Clocked.Scheduled env.subscriptions.location plan) _ _ explains _
    (along_and (along_of_forall fun entry mem _ => uses entry mem) prompt)
  · intro _ _ _ passed scheduled
    exact { scheduled with started := scheduled.started.trans passed, zeroed := scheduled.zeroed.trans passed }
  · exact fun _ entry => scheduled_step advances entry
  · rw [created]
    exact scheduled_created advances positive

/-! Two days with a quota of ten each. The day that begins at 172800 is the last one. -/

def dailyPlan : SubscriptionPlan where
  id := 1
  title := "daily"
  durationUnit := "day"
  durationValue := 2
  totalAmount := 10
  quotaResetPeriod := "daily"

def dailyRow (used last next : Int) : UserSubscription where
  id := 1
  userId := 1
  planId := 1
  amountTotal := 10
  amountUsed := used
  startTime := 1000
  endTime := 173800
  status := .active
  lastResetTime := last
  nextResetTime := next
  allowWalletOverflow := true
  source := .balance

def dailyBought : SubscriptionState :=
  run (SubscriptionState.step orderEnv) ⟨subscriberStore ⟨[dailyPlan], by decide⟩, 1000⟩
    [.purchase 1 dailyPlan .balance fun _ => none]

def nextDay : List SubscriptionCall := [⟨.tick 100000, ""⟩, ⟨.preConsume "request" 1 4 fun _ => none, ""⟩]

theorem one_reset_per_boundary_nextDay : ∃ entries, Explains orderEnv 1 dailyBought nextDay entries ∧
    let reached := run (callStep orderEnv) dailyBought nextDay
    let clocked := run (Clocked.step orderEnv.subscriptions) ⟨dailyRow 0 1000 86400, 1000, 1000⟩ entries
    reached.row 1 = some clocked.row ∧ ResetsOnce orderEnv.subscriptions dailyPlan reached.now clocked := by
  have explains : Explains orderEnv 1 dailyBought nextDay
    [⟨101000, "request", .check dailyPlan⟩, ⟨101000, "request", .charge 4⟩] := by
    refine @cons _ _ _ _ _ [] _ (by simp) (by decide +kernel)
      (@cons _ _ _ _ _ [.check dailyPlan, .charge 4] _ ?_ (by decide +kernel) (.nil _))
    simp only [List.mem_cons, List.not_mem_nil, or_false, forall_eq_or_imp, forall_eq]
    exact ⟨.inl ⟨dailyRow 0 1000 86400, dailyPlan, by decide +kernel, by decide +kernel, rfl⟩, .inr rfl⟩
  have advances : Advances orderEnv.subscriptions.location dailyPlan := advances_utc (by decide)
  have created : dailyRow 0 1000 86400 =
      { planSubscription orderEnv 1 dailyPlan .balance dailyBought.now 173800 "" with id := 1 } := by decide +kernel
  have found : dailyBought.row 1 = some (dailyRow 0 1000 86400) := by decide +kernel
  refine ⟨_, explains, ?_⟩
  exact (one_reset_per_boundary advances (by decide) created found (by decide +kernel) (by rintro _ _ ⟨⟩) nextDay
    (by simp [nextDay])).2 _ explains ⟨trivial, trivial, trivial⟩

def lastDayReset : List SubscriptionCall :=
  [⟨.tick 171900, ""⟩, ⟨.resetDue 10 fun _ => none, ""⟩, ⟨.adminResetUser 1 1 true fun _ => none, ""⟩]

theorem last_day_zeroed_again : ∃ entries, Explains orderEnv 1 dailyBought lastDayReset entries ∧
    let reached := run (callStep orderEnv) dailyBought lastDayReset
    let clocked := run (Clocked.step orderEnv.subscriptions) ⟨dailyRow 0 1000 86400, 1000, 1000⟩ entries
    reached.row 1 = some clocked.row ∧ clocked.row = dailyRow 0 0 0 ∧ clocked.zeroedAt = reached.now ∧
      resetsQuota orderEnv.subscriptions reached.now clocked.row dailyPlan = true ∧
      (maybeResetUserSubscriptionWithPlanTx orderEnv.subscriptions clocked.row dailyPlan reached.now
        (fun _ => none) reached.store.subscriptions).1 = .ok (dailyRow 0 172800 0) := by
  refine ⟨[⟨172900, "", .check dailyPlan⟩, ⟨172900, "", .adminReset dailyPlan true⟩], ?_, ?_⟩
  · refine @cons _ _ _ _ _ [] _ (by simp) (by decide +kernel)
      (@cons _ _ _ _ _ [.check dailyPlan] _ ?_ (by decide +kernel)
        (@cons _ _ _ _ _ [.adminReset dailyPlan true] _ ?_ (by decide +kernel) (.nil _)))
    · simp only [List.mem_singleton, forall_eq]
      exact ⟨dailyRow 0 1000 86400, dailyPlan, by decide +kernel, by decide +kernel, rfl⟩
    · simp only [List.mem_singleton, forall_eq]
      exact ⟨dailyRow 0 172800 0, dailyPlan, by decide +kernel, rfl, by decide +kernel, by decide +kernel, rfl, rfl⟩
  · decide +kernel

end NewApi.Proof
