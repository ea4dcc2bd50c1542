import NewApi.Proof.Expiry

/-! # The quota of a subscription -/

namespace NewApi.Proof
open Library Common Model SubscriptionStore RowWrite SubscriptionState Db List

def WithinQuota (sub : UserSubscription) : Prop :=
  0 ≤ sub.amountUsed ∧ (0 < sub.amountTotal → sub.amountUsed ≤ sub.amountTotal)

variable (env : SubscriptionEnv) (store : SubscriptionStore)

def PlanKept (sub : UserSubscription) : Prop :=
  (planOf env store sub.planId).isSome = true

def SoundRow (sub : UserSubscription) : Prop :=
  WithinQuota sub ∧ PlanKept env store sub

def SoundStore : Prop :=
  ∀ sub ∈ store.subscriptions.rows, SoundRow env store sub

def SoundState (env : OrderEnv) (state : SubscriptionState) : Prop :=
  SoundStore env.subscriptions state.store.subscriptions

def SoldPlan (env : OrderEnv) (state : SubscriptionState) : SubscriptionEvent → Prop
  | .purchase _ plan _ _ => planOf env.subscriptions state.store.subscriptions plan.id = some plan
  | _ => True

section Bound
variable {env : SubscriptionEnv} {now : Int} {sub : UserSubscription}

theorem withinQuota_apply (within : WithinQuota sub) (write : RowWrite) : WithinQuota (write.apply env now sub) := by
  obtain ⟨nonneg, bounded⟩ := within
  cases write with
  | check plan =>
    simp only [apply]
    rcases outcome : resetOutcome env sub plan now with _ | _ | row
    · exact ⟨nonneg, bounded⟩
    · exact ⟨nonneg, bounded⟩
    · obtain ⟨_, _, _, rfl | rfl, rfl⟩ := resetOutcome_row outcome
      · exact ⟨nonneg, bounded⟩
      · exact ⟨le_rfl, le_of_lt⟩
  | charge amount =>
    simp only [apply]
    split_ifs with fits
    · refine ⟨?_, fits.2⟩
      change 0 ≤ sub.amountUsed + amount
      omega
    · exact ⟨nonneg, bounded⟩
  | adjust =>
    simp only [apply]
    split_ifs with refused
    · exact ⟨nonneg, bounded⟩
    · exact ⟨le_max_left _ _, fun limited => not_lt.mp fun exceeds => refused ⟨limited, exceeds⟩⟩
  | adminReset =>
    simp only [apply, adminResetRow]
    split_ifs <;> exact ⟨le_rfl, le_of_lt⟩
  | expire =>
    simp only [apply]
    split_ifs <;> exact ⟨nonneg, bounded⟩
  | cancel => exact ⟨nonneg, bounded⟩

theorem sound_evolves {allowed before after}
    (evolved : Evolves env now allowed before after) (sound : SoundStore env before) : SoundStore env after := by
  intro row mem
  obtain ⟨_, -, rows⟩ := evolved.rows row.id
  rw [Table.find?_eq_some.mpr ⟨mem, rfl⟩] at rows
  obtain ⟨old, found, written⟩ := Option.map_eq_some_iff.mp rows.symm
  obtain ⟨within, _⟩ := sound old (Table.find?_eq_some.mp found).1
  have samePlan : row.planId = old.planId := by
    rw [← written]
    exact foldl_apply (fun row => row.planId = old.planId) (fun _ _ _ same => (apply_planId _ _ _ _).trans same) rfl
  constructor
  · rw [← written]
    exact foldl_apply WithinQuota (fun _ write _ within => withinQuota_apply within write) within
  · rwa [PlanKept, planOf, evolved.plans, samePlan]

theorem sound_step {env} (state event) (sound : SoundState env state)
    (sold : SoldPlan env state event) : SoundState env (state.step env event) := by
  cases event with
  | purchase _ plan =>
    refine purchase_subscriptions (SoundStore env.subscriptions) sound fun _ _ row mem => ?_
    rw [insertSubscription_rows, mem_append, mem_singleton] at mem
    rcases mem with old | rfl
    · exact sound row old
    · refine ⟨⟨le_rfl, le_of_lt⟩, ?_⟩
      change (planOf env.subscriptions state.store.subscriptions plan.id).isSome = true
      rw [show planOf env.subscriptions state.store.subscriptions plan.id = some plan from sold]
      rfl
  | delete id faults =>
    unfold SoundState
    rcases relates_run (delete_rows id state.now) faults state.store with same | deleted
    · rwa [step, onStore, same]
    · rw [step, onStore, deleted]
      exact fun row mem => sound row (mem_of_mem_filter mem)
  | _ => exact sound_evolves (step_evolves (by simp) (by simp)) sound

end Bound

/-! ## The first subscription with enough left -/

def refreshedRow (env : SubscriptionEnv) (store : SubscriptionStore) (now : Int) (sub : UserSubscription) :
    UserSubscription :=
  match planOf env store sub.planId with
  | some plan => (check plan).apply env now sub
  | none => sub

def Affords (amount : Int) (sub : UserSubscription) : Prop :=
  sub.amountTotal ≤ 0 ∨ amount ≤ sub.amountTotal - sub.amountUsed

instance (amount : Int) : DecidablePred (Affords amount) := fun _ => inferInstanceAs (Decidable (_ ∨ _))

def CheckEnds (env : SubscriptionEnv) (store : SubscriptionStore) (now : Int) (sub : UserSubscription) : Prop :=
  ∀ plan, planOf env store sub.planId = some plan → resetOutcome env sub plan now ≠ none

def chargeResult (amount : Int) (sub : UserSubscription) : SubscriptionPreConsumeResult :=
  ⟨sub.id, amount, sub.amountTotal, sub.amountUsed, sub.amountUsed + amount⟩

structure FirstCharged (env : SubscriptionEnv) (now amount : Int) (candidates : List UserSubscription)
    (chosen : UserSubscription) (before after : SubscriptionStore) : Prop where
  charged : after.subscriptions.find? chosen.id = some (withCharge amount (refreshedRow env before now chosen))
  others : ∀ id, id ≠ chosen.id → after.subscriptions.find? id = before.subscriptions.find? id ∨
    ∃ sub ∈ candidates, sub.id = id ∧ after.subscriptions.find? id = some (refreshedRow env before now sub)

section Charge
variable {env : SubscriptionEnv} {now amount userId : Int} {requestId : String} {store : SubscriptionStore}
  {faults : Faults PreConsumeStatement String}

theorem consumeRow_runs (noFault : ∀ label, faults label = none) (fresh : store.records.find? requestId = none)
    (sub) : consumeRow requestId userId amount sub faults store = (.ok (chargeResult amount sub),
        (store.insertRecord ⟨requestId, userId, sub.id, amount, .consumed⟩).saveSubscription
          (withCharge amount sub)) := by
  refine bind_eq_ok.mpr ⟨.ok (), store.insertRecord ⟨requestId, userId, sub.id, amount, .consumed⟩, ?_, ?_⟩
  · refine attempt_eq_ok.mpr (.inl ⟨(), rfl, bind_eq_ok.mpr ⟨none, store, ?_, rfl⟩⟩)
    exact query_eq_ok.mpr ⟨noFault _, fresh.symm, rfl⟩
  · exact bind_eq_ok.mpr ⟨(), _, execute_eq_ok.mpr ⟨noFault _, rfl⟩, rfl⟩

theorem maybeReset_runs {sub plan faults} (noFault : faults () = none)
    (found : store.subscriptions.find? sub.id = some sub)
    (ends : resetOutcome env sub plan now ≠ none) :
    maybeResetUserSubscriptionWithPlanTx env sub plan now faults store = (.ok ((check plan).apply env now sub),
        store.saveSubscription ((check plan).apply env now sub)) := by
  unfold maybeResetUserSubscriptionWithPlanTx
  simp only [apply]
  rcases outcome : resetOutcome env sub plan now with _ | _ | row
  · exact absurd outcome ends
  · simp only [Option.getD_some, Option.getD_none]
    rw [saveSubscription, Table.save_self (Table.find?_eq_some.mp found).1]
    rfl
  · exact bind_eq_ok.mpr ⟨(), _, execute_eq_ok.mpr ⟨noFault, rfl⟩, rfl⟩

theorem refreshedRow_of_plan {sub plan} (planned : planOf env store sub.planId = some plan) :
    refreshedRow env store now sub = (check plan).apply env now sub := by
  rw [refreshedRow, planned]

@[simp] theorem refreshedRow_id (env : SubscriptionEnv) (store : SubscriptionStore) (now : Int)
    (sub : UserSubscription) :
    (refreshedRow env store now sub).id = sub.id := by
  unfold refreshedRow
  cases planOf env store sub.planId <;> simp

theorem refreshedRow_used (sub) : (refreshedRow env store now sub).amountUsed = sub.amountUsed ∨
    (refreshedRow env store now sub).amountUsed = 0 := by
  unfold refreshedRow
  cases planOf env store sub.planId with
  | none => exact .inl rfl
  | some plan =>
    simp only [apply]
    rcases outcome : resetOutcome env sub plan now with _ | _ | row
    · exact .inl rfl
    · exact .inl rfl
    · obtain ⟨_, _, _, rfl | rfl, rfl⟩ := resetOutcome_row outcome
      · exact .inl rfl
      · exact .inr rfl

section NoFault
variable (noFault : ∀ label, faults label = none)
include noFault

theorem consumeFirst_cons {candidate rest} (found : store.subscriptions.find? candidate.id = some candidate)
    (kept : PlanKept env store candidate) (ends : CheckEnds env store now candidate) :
    consumeFirst env requestId userId amount now (candidate :: rest) faults store =
      (if Affords amount (refreshedRow env store now candidate) then
        consumeRow requestId userId amount (refreshedRow env store now candidate)
      else consumeFirst env requestId userId amount now rest) faults
        (store.saveSubscription (refreshedRow env store now candidate)) := by
  obtain ⟨plan, planned⟩ := Option.isSome_iff_exists.mp kept
  have looked : (getSubscriptionPlanById env candidate.planId).within (fun _ => PreConsumeStatement.plan candidate.id)
      faults store = (.ok plan, store) := getSubscriptionPlanById_runs planned (noFault _)
  have checked : (maybeResetUserSubscriptionWithPlanTx env candidate plan now).within
      (fun _ => PreConsumeStatement.saveReset candidate.id) faults store = _ :=
    maybeReset_runs (noFault _) found (ends plan planned)
  rw [refreshedRow_of_plan planned, consumeFirst, bind_of_ok looked, bind_of_ok checked]
  by_cases affords : Affords amount ((check plan).apply env now candidate)
  · rw [if_pos affords, if_neg]
    rintro ⟨_, _⟩
    rcases affords with unlimited | enough
    · omega
    · omega
  · rw [if_neg affords, if_pos]
    unfold Affords at affords
    omega

theorem consumeFirst_charges (subs) (fresh : store.records.find? requestId = none) (current : Current store subs)
    (kept : ∀ sub ∈ subs, PlanKept env store sub) (ends : ∀ sub ∈ subs, CheckEnds env store now sub)
    (affords : ∃ sub ∈ subs, Affords amount (refreshedRow env store now sub)) :
    ∃ passed chosen rest after, subs = passed ++ chosen :: rest ∧
      (∀ sub ∈ passed, ¬Affords amount (refreshedRow env store now sub)) ∧
      Affords amount (refreshedRow env store now chosen) ∧
        consumeFirst env requestId userId amount now subs faults store =
        (.ok (chargeResult amount (refreshedRow env store now chosen)), after) ∧
      FirstCharged env now amount subs chosen store after := by
  induction subs generalizing store with
  | nil => simp at affords
  | cons candidate tail ih =>
    have found := current.stored candidate (by simp)
    have stored := Table.find?_save_of_some found (refreshedRow_id env store now candidate)
    have step : consumeFirst env requestId userId amount now (candidate :: tail) faults store = _ :=
      consumeFirst_cons noFault found (kept candidate (by simp)) (ends candidate (by simp))
    by_cases enough : Affords amount (refreshedRow env store now candidate)
    · rw [if_pos enough, consumeRow_runs noFault (by exact fresh)] at step
      have charged (id : Int) : ((store.subscriptions.save (refreshedRow env store now candidate)).save
          (withCharge amount (refreshedRow env store now candidate))).find? id = _ :=
        Table.find?_save_of_some ((stored candidate.id).trans (if_pos rfl))
          (by exact refreshedRow_id env store now candidate) id
      refine ⟨[], candidate, tail, _, rfl, by simp, enough, step, ?_, fun id apart => .inl ?_⟩
      · exact (charged candidate.id).trans (if_pos rfl)
      · exact (charged id).trans ((if_neg apart).trans ((stored id).trans (if_neg apart)))
    · rw [if_neg enough] at step
      have later : ∃ sub ∈ tail, Affords amount (refreshedRow env store now sub) := by
        obtain ⟨sub, mem, fits⟩ := affords
        rcases mem_cons.mp mem with rfl | mem
        · exact absurd fits enough
        · exact ⟨sub, mem, fits⟩
      obtain ⟨passed, chosen, rest, after, rfl, short, fits, ran, charged, others⟩ :=
        ih (by exact fresh) (current_save current (refreshedRow_id env store now candidate))
          (fun sub mem => kept sub (by simp [mem])) (fun sub mem => ends sub (by simp [mem])) later
      refine ⟨candidate :: passed, chosen, rest, after, rfl, ?_, fits, step.trans ran, charged, ?_⟩
      · intro sub mem
        rcases mem_cons.mp mem with rfl | mem
        · exact enough
        · exact short sub mem
      · intro id apart
        rcases others id apart with same | ⟨sub, mem, own, reset⟩
        · by_cases first : id = candidate.id
          · right
            exact ⟨candidate, by simp, first.symm, same.trans ((stored id).trans (if_pos first))⟩
          · exact .inl (same.trans ((stored id).trans (if_neg first)))
        · exact .inr ⟨sub, by simp [mem], own, reset⟩

theorem consumeFirst_fails (subs) (current : Current store subs) (kept : ∀ sub ∈ subs, PlanKept env store sub)
    (ends : ∀ sub ∈ subs, CheckEnds env store now sub) (none : ∀ sub ∈ subs,
    ¬Affords amount (refreshedRow env store now sub)) :
    ∃ after, consumeFirst env requestId userId amount now subs faults store =
      (.error (.error ("subscription quota insufficient, need=" ++ toString amount)), after) := by
  induction subs generalizing store with
  | nil => exact ⟨store, rfl⟩
  | cons candidate _ ih =>
    have found := current.stored candidate (by simp)
    rw [consumeFirst_cons noFault found (kept candidate (by simp)) (ends candidate (by simp)),
      if_neg (none candidate (by simp))]
    apply ih (current_save current (refreshedRow_id env store now candidate))
    · exact fun sub mem => kept sub (by simp [mem])
    · exact fun sub mem => ends sub (by simp [mem])
    · exact fun sub mem => none sub (by simp [mem])

end NoFault

instance endsBefore_total : Std.Total endsBefore where
  total a b := by
    unfold endsBefore
    omega

instance endsBefore_trans : IsTrans UserSubscription endsBefore where
  trans a b c := by
    unfold endsBefore
    omega

theorem mem_candidates {sub} : sub ∈ store.candidates userId now ↔ sub ∈ store.active userId now :=
  mem_insertionSort _

theorem first_endsBefore {passed rest chosen other}
    (split : store.candidates userId now = passed ++ chosen :: rest) (mem : other ∈ store.active userId now)
    (later : other ∉ passed) : endsBefore chosen other := by
  have sorted : (store.candidates userId now).Pairwise endsBefore := pairwise_insertionSort _ _
  rw [← mem_candidates, split, mem_append, mem_cons] at mem
  rw [split] at sorted
  rcases mem with early | rfl | late
  · exact absurd early later
  · exact .inr ⟨rfl, le_rfl⟩
  · exact rel_of_pairwise_cons (pairwise_append.mp sorted).2.1 late

theorem preConsumeInTx_fresh (noFault : ∀ label, faults label = none) (fresh : store.records.find? requestId = none) :
    preConsumeInTx env requestId userId amount now faults store = (match store.candidates userId now with
      | [] => fail "no active subscription"
      | subs => consumeFirst env requestId userId amount now subs) faults store := by
  rw [preConsumeInTx, bind_of_ok (query_eq_ok.mpr ⟨noFault _, rfl, rfl⟩), fresh]
  dsimp only
  rw [bind_of_ok (attempt_query (noFault _))]
  cases store.candidates userId now <;> rfl

theorem preConsume_first {store} (noFault : ∀ label, faults label = none) (known : 0 < userId)
    (nonblank : trimSpace requestId ≠ "") (pos : 0 < amount) (fresh : store.records.find? requestId = none)
    (kept : ∀ sub ∈ store.active userId now, PlanKept env store sub)
    (ends : ∀ sub ∈ store.active userId now, CheckEnds env store now sub) :
    ((∀ sub ∈ store.active userId now, ¬Affords amount (refreshedRow env store now sub)) →
      ∃ reason, preConsumeUserSubscription env requestId userId amount now faults store =
        (.error (.error reason), store)) ∧
    ((∃ sub ∈ store.active userId now, Affords amount (refreshedRow env store now sub)) →
      ∃ chosen ∈ store.active userId now, Affords amount (refreshedRow env store now chosen) ∧
        (∀ other ∈ store.active userId now, Affords amount (refreshedRow env store now other) →
          endsBefore chosen other) ∧
        ∃ result after, preConsumeUserSubscription env requestId userId amount now faults store = (.ok result, after) ∧
          result.userSubscriptionId = chosen.id ∧ result.preConsumed = amount ∧
          FirstCharged env now amount (store.active userId now) chosen store after) := by
  have opened : preConsumeUserSubscription env requestId userId amount now =
      transaction .start .commit (preConsumeInTx env requestId userId amount now) := by
    rw [preConsumeUserSubscription, if_neg (not_le.mpr known), if_neg nonblank, if_neg (not_le.mpr pos)]
  have current := current_candidates store userId now
  constructor
  · intro none
    have failed : ∃ reason after, preConsumeInTx env requestId userId amount now faults store =
      (.error (.error reason), after) := by
      rw [preConsumeInTx_fresh noFault fresh]
      cases found : store.candidates userId now with
      | nil => exact ⟨_, _, rfl⟩
      | cons first rest =>
        rw [found] at current
        have active : ∀ sub ∈ first :: rest, sub ∈ store.active userId now := fun sub mem =>
          mem_candidates.mp (found ▸ mem)
        exact ⟨_, consumeFirst_fails noFault _ current (fun sub mem => kept sub (active sub mem))
          (fun sub mem => ends sub (active sub mem)) fun sub mem => none sub (active sub mem)⟩
    obtain ⟨reason, _, ran⟩ := failed
    refine ⟨reason, ?_⟩
    rw [opened, transaction, noFault, ran]
  · rintro ⟨sub, mem, affords⟩
    obtain ⟨_, chosen, _, after, split, short, fits, ran, charged, others⟩ :=
      consumeFirst_charges noFault _ fresh current (fun sub mem => kept sub (mem_candidates.mp mem))
        (fun sub mem => ends sub (mem_candidates.mp mem)) ⟨sub, mem_candidates.mpr mem, affords⟩
    refine ⟨chosen, mem_candidates.mp (by simp [split]), fits, ?_,
      chargeResult amount (refreshedRow env store now chosen), after, ?_,
        refreshedRow_id env store now chosen, rfl, charged, ?_⟩
    · exact fun other mem affords => first_endsBefore split mem fun early => short other early affords
    · rw [opened]
      refine transaction_eq_ok.mpr ⟨noFault _, noFault _, ?_⟩
      rw [preConsumeInTx_fresh noFault fresh]
      cases found : store.candidates userId now with
      | nil => simp [found] at split
      | cons => rwa [found] at ran
    · intro id apart
      rcases others id apart with same | ⟨sub, mem, own, reset⟩
      · exact .inl same
      · exact .inr ⟨sub, mem_candidates.mp mem, own, reset⟩

end Charge

/-- No used amount leaves its bounds. Without failures a new request succeeds just if an active
subscription has enough left after its reset, and charges the first of those. -/
theorem quota_bound {env : OrderEnv} {state : SubscriptionState}
    (new : ∀ sub ∈ state.store.subscriptions.subscriptions.rows, sub.amountUsed = 0 ∧
      PlanKept env.subscriptions state.store.subscriptions sub)
    (events : List SubscriptionEvent) (along : Along (step env) (SoldPlan env) state events) :
    let reached := run (step env) state events
    let store := reached.store.subscriptions
    let refreshed := refreshedRow env.subscriptions store reached.now
    (∀ sub ∈ store.subscriptions.rows, WithinQuota sub) ∧
    ∀ (requestId : String) (userId amount : Int) (faults : Faults PreConsumeStatement String),
      (∀ label, faults label = none) → 0 < userId → trimSpace requestId ≠ "" → 0 < amount →
        store.records.find? requestId = none →
      (∀ sub ∈ store.active userId reached.now, CheckEnds env.subscriptions store reached.now sub) →
      let call := preConsumeUserSubscription env.subscriptions requestId userId amount reached.now faults store
      ((∃ result, call.1 = .ok result) ↔ ∃ sub ∈ store.active userId reached.now, Affords amount (refreshed sub)) ∧
      ∀ result, call.1 = .ok result → ∃ chosen ∈ store.active userId reached.now, Affords amount (refreshed chosen) ∧
        (∀ other ∈ store.active userId reached.now, Affords amount (refreshed other) → endsBefore chosen other) ∧
        result.userSubscriptionId = chosen.id ∧
        FirstCharged env.subscriptions reached.now amount (store.active userId reached.now) chosen store call.2 ∧
        ∀ sub, (refreshed sub).amountUsed = sub.amountUsed ∨ (refreshed sub).amountUsed = 0 := by
  intro reached store refreshed
  have start : SoundState env state := by
    intro sub mem
    obtain ⟨unused, kept⟩ := new sub mem
    exact ⟨⟨unused.ge, fun limited => unused.trans_le limited.le⟩, kept⟩
  have sound : SoundState env reached := run_invariant sound_step start along
  refine ⟨fun sub mem => (sound sub mem).1, ?_⟩
  intro _ userId amount _ noFault known nonblank pos fresh ends call
  have kept : ∀ sub ∈ store.active userId reached.now, PlanKept env.subscriptions store sub :=
    fun sub mem => (sound sub (mem_of_mem_filter mem)).2
  obtain ⟨fails, charges⟩ := preConsume_first noFault known nonblank pos fresh kept ends
  by_cases affords : ∃ sub ∈ store.active userId reached.now, Affords amount (refreshed sub)
  · obtain ⟨chosen, active, fits, first, result, after, ran, same, -, charged⟩ := charges affords
    have ok : call = (.ok result, after) := ran
    rw [ok]
    refine ⟨⟨fun _ => affords, fun _ => ⟨result, rfl⟩⟩, fun _ equal => ?_⟩
    cases equal
    exact ⟨chosen, active, fits, first, same, charged, fun sub => refreshedRow_used sub⟩
  · obtain ⟨reason, ran⟩ := fails fun sub mem fits => affords ⟨sub, mem, fits⟩
    have failed : call = (.error (.error reason), store) := ran
    rw [failed]
    refine ⟨⟨?_, fun some => absurd some affords⟩, ?_⟩
    · rintro ⟨_, bad⟩
      cases bad
    · intro _ bad
      cases bad

/-! A day with a quota of ten, all of it used by one request. -/

def dayEvents : List SubscriptionEvent :=
  [.purchase 1 dayPlan .balance fun _ => none, .preConsume "request" 1 10 fun _ => none]

theorem quota_bound_day :
    let reached := run (step orderEnv) ⟨dayStore, 1000⟩ dayEvents
    reached.store.subscriptions.amountUsed 1 = 10 ∧ ∀ sub ∈
      reached.store.subscriptions.subscriptions.rows, WithinQuota sub := by
  refine ⟨by decide +kernel, (quota_bound ?_ dayEvents ?_).1⟩
  · intro _ mem
    cases mem
  · exact ⟨rfl, trivial, trivial⟩

theorem repeated_request_succeeds :
    let reached := run (step orderEnv) ⟨dayStore, 1000⟩ dayEvents
    let store := reached.store.subscriptions
    (∀ sub ∈ store.active 1 reached.now, ¬Affords 10 (refreshedRow orderEnv.subscriptions store reached.now sub)) ∧
      (preConsumeUserSubscription orderEnv.subscriptions "request" 1 10 reached.now
        (fun _ => none) store).1 = .ok ⟨1, 10, 10, 10, 10⟩ := by
  decide +kernel

end NewApi.Proof
