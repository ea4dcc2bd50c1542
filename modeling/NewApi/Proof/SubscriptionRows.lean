import NewApi.Model.SubscriptionRun
import NewApi.Proof.OrderEffects

/-! # What happens to one subscription -/

namespace NewApi.Proof
open Library Common Model SubscriptionStore Db List
variable {now : Int} {sub row : UserSubscription} {before after store : SubscriptionStore}

def withCharge (amount : Int) (sub : UserSubscription) : UserSubscription :=
  { sub with amountUsed := sub.amountUsed + amount }

inductive RowWrite where
  | check (plan : SubscriptionPlan)
  | charge (amount : Int)
  | adjust (delta : Int)
  | adminReset (plan : SubscriptionPlan) (advanceResetTime : Bool)
  | expire
  | cancel

variable (env : SubscriptionEnv)

def RowWrite.apply (now : Int) (sub : UserSubscription) : RowWrite → UserSubscription
  | .check plan => ((resetOutcome env sub plan now).getD none).getD sub
  | .charge amount =>
    if 0 < amount ∧ (0 < sub.amountTotal → sub.amountUsed + amount ≤ sub.amountTotal) then
      { sub with amountUsed := sub.amountUsed + amount }
    else sub
  | .adjust delta =>
    if 0 < sub.amountTotal ∧ sub.amountTotal < max 0 (sub.amountUsed + delta) then sub else Proof.adjust sub delta
  | .adminReset plan advanceResetTime => adminResetRow env sub plan now advanceResetTime
  | .expire => if SubscriptionStore.Ended now sub then { sub with status := .expired } else sub
  | .cancel => cancelledRow sub now

def Checks (store : SubscriptionStore) (id : Int) (write : RowWrite) : Prop :=
  ∃ sub plan, store.subscriptions.find? id = some sub ∧ planOf env store sub.planId = some plan ∧ write = .check plan

def AdminResets (now : Int) (store : SubscriptionStore) (planId : Int) (advanceResetTime : Bool)
    (id : Int) (write : RowWrite) : Prop :=
  ∃ sub plan, store.subscriptions.find? id = some sub ∧ sub.status = .active ∧ now < sub.endTime ∧
    planOf env store planId = some plan ∧ sub.planId = plan.id ∧ write = .adminReset plan advanceResetTime

def Writes (state : SubscriptionState) (event : SubscriptionEvent) (id : Int) (write : RowWrite) :
    Prop :=
  match event with
  | .preConsume _ _ amount _ => Checks env state.store.subscriptions id write ∨ write = .charge amount
  | .postConsume other delta _ => id = other ∧ write = .adjust delta
  | .refund requestId _ => ∃ record, state.store.subscriptions.records.find? requestId = some record ∧
      record.status = .consumed ∧ id = record.userSubscriptionId ∧ write = .adjust (-record.preConsumed)
  | .resetDue _ _ => Checks env state.store.subscriptions id write
  | .adminResetUser _ planId advanceResetTime _ =>
    AdminResets env state.now state.store.subscriptions planId advanceResetTime id write
  | .adminResetPlan planId advanceResetTime _ =>
    AdminResets env state.now state.store.subscriptions planId advanceResetTime id write
  | .expire _ _ _ => write = .expire
  | .invalidate other _ => id = other ∧ write = .cancel
  | _ => False

structure Evolves (env : SubscriptionEnv) (now : Int) (allowed : Int → RowWrite → Prop)
    (before after : SubscriptionStore) : Prop where
  plans : after.plans = before.plans
  rows : ∀ id, ∃ writes : List RowWrite, (∀ write ∈ writes, allowed id write) ∧
    after.subscriptions.find? id =
      (before.subscriptions.find? id).map fun sub => writes.foldl (RowWrite.apply env now) sub

section Apply
variable {env : SubscriptionEnv} {plan : SubscriptionPlan}

theorem apply_frame (env : SubscriptionEnv) (now : Int) (sub : UserSubscription) (write : RowWrite) :
    ∃ used last next ends status, write.apply env now sub =
      { sub with amountUsed := used, lastResetTime := last, nextResetTime := next, endTime := ends, status := status } := by
  cases write with
  | check plan =>
    simp only [RowWrite.apply]
    rcases outcome : resetOutcome env sub plan now with _ | _ | row
    · exact ⟨_, _, _, _, _, rfl⟩
    · exact ⟨_, _, _, _, _, rfl⟩
    · obtain ⟨_, _, _, -, rfl⟩ := resetOutcome_row outcome
      exact ⟨_, _, _, _, _, rfl⟩
  | charge amount | adjust delta | expire | adminReset =>
    simp only [RowWrite.apply, adminResetRow]
    split_ifs <;> exact ⟨_, _, _, _, _, rfl⟩
  | cancel => exact ⟨_, _, _, _, _, rfl⟩

@[simp] theorem apply_id (env : SubscriptionEnv) (now : Int) (sub : UserSubscription) (write : RowWrite) :
    (write.apply env now sub).id = sub.id := by
  obtain ⟨_, _, _, _, _, same⟩ := apply_frame env now sub write
  rw [same]

@[simp] theorem apply_planId (env : SubscriptionEnv) (now : Int) (sub : UserSubscription) (write : RowWrite) :
    (write.apply env now sub).planId = sub.planId := by
  obtain ⟨_, _, _, _, _, same⟩ := apply_frame env now sub write
  rw [same]

theorem foldl_apply (holds : UserSubscription → Prop) {writes : List RowWrite}
    (keeps : ∀ sub, ∀ write ∈ writes, holds sub → holds (write.apply env now sub)) (init : holds sub) :
    holds (writes.foldl (RowWrite.apply env now) sub) := by
  induction writes generalizing sub with
  | nil => exact init
  | cons write _ ih =>
    apply ih
    · intro other later mem
      exact keeps other later (by simp [mem])
    · exact keeps sub write (by simp) init

end Apply

/-! ## How calls compose -/

section Rules
variable {env : SubscriptionEnv} {allowed : Int → RowWrite → Prop} {middle : SubscriptionStore}

theorem evolves_of_same (plans : after.plans = before.plans) (rows : after.subscriptions = before.subscriptions) :
    Evolves env now allowed before after where
  plans := plans
  rows id := ⟨[], by simp, by simp [rows]⟩

theorem evolves_refl (store) : Evolves env now allowed store store := evolves_of_same rfl rfl

theorem evolves_insertRecord (store record) :
    Evolves env now allowed store (store.insertRecord record) := evolves_of_same rfl rfl

theorem evolves_trans (first : Evolves env now allowed before middle) (second : Evolves env now allowed middle after) :
    Evolves env now allowed before after where
  plans := second.plans.trans first.plans
  rows id := by
    obtain ⟨writes, may, rows⟩ := first.rows id
    obtain ⟨more, mayMore, moreRows⟩ := second.rows id
    refine ⟨writes ++ more, ?_, ?_⟩
    · intro write mem
      rcases mem_append.mp mem with earlier | later
      · exact may write earlier
      · exact mayMore write later
    · rw [moreRows, rows, Option.map_map]
      simp only [Function.comp_def, foldl_append]

theorem evolves_save {write} (found : store.subscriptions.find? sub.id = some sub)
    (may : allowed sub.id write) : Evolves env now allowed store
    (store.saveSubscription (write.apply env now sub)) where
  plans := rfl
  rows id := by
    have saved := Table.find?_save_of_some found (apply_id env now sub write) id
    by_cases same : id = sub.id
    · subst same
      refine ⟨[write], by simpa using may, ?_⟩
      rw [saveSubscription, saved, if_pos rfl, found]
      rfl
    · refine ⟨[], by simp, ?_⟩
      rw [saveSubscription, saved, if_neg same]
      simp

theorem saveSubscription_stored (found : store.subscriptions.find? sub.id = some sub) (same : row.id = sub.id) :
    (store.saveSubscription row).subscriptions.find? row.id = some row := by
  rw [SubscriptionStore.saveSubscription, Table.find?_save_of_some found same, if_pos same]

theorem evolves_charge {amount} (pos : 0 < amount) (fits : 0 < sub.amountTotal →
    sub.amountUsed + amount ≤ sub.amountTotal)
    (found : store.subscriptions.find? sub.id = some sub) (may : allowed sub.id (.charge amount)) :
    Evolves env now allowed store (store.saveSubscription { sub with amountUsed := sub.amountUsed + amount }) := by
  have charged : Evolves env now allowed store (store.saveSubscription ((RowWrite.charge amount).apply env now sub)) :=
    evolves_save found may
  rwa [RowWrite.apply, if_pos ⟨pos, fits⟩] at charged

structure Current (store : SubscriptionStore) (subs : List UserSubscription) : Prop where
  distinct : (subs.map UserSubscription.id).Nodup
  stored : ∀ sub ∈ subs, store.subscriptions.find? sub.id = some sub

theorem current_of_rows {subs} (distinct : (subs.map UserSubscription.id).Nodup)
    (members : ∀ sub ∈ subs, sub ∈ store.subscriptions.rows) : Current store subs where
  distinct := distinct
  stored sub mem := Table.find?_eq_some.mpr ⟨members sub mem, rfl⟩

theorem current_save {rest} (current : Current store (sub :: rest)) (same : row.id = sub.id) :
    Current (store.saveSubscription row) rest where
  distinct := (nodup_cons.mp current.distinct).2
  stored other mem := by
    have apart : other.id ≠ row.id := fun equal => (nodup_cons.mp current.distinct).1
      (same ▸ equal ▸ mem_map_of_mem mem)
    rw [saveSubscription, Table.find?_save, if_neg apart]
    exact current.stored other (by simp [mem])

theorem current_candidates (store) (userId now : Int) : Current store (store.candidates userId now) := by
  apply current_of_rows
  · have sorted := (perm_insertionSort SubscriptionStore.endsBefore (store.active userId now)).map UserSubscription.id
    exact sorted.nodup_iff.mpr (store.subscriptions.unique.sublist (filter_sublist.map _))
  · intro _ mem
    exact mem_of_mem_filter ((mem_insertionSort endsBefore).mp mem)

end Rules

/-! ## The calls -/

section Calls
variable {env : SubscriptionEnv} {allowed : Int → RowWrite → Prop}

variable {id userId amount delta planId : Int} {requestId : String} {advanceResetTime : Bool}

theorem getSubscriptionPlanById_runs {plan faults} (found : planOf env store id = some plan)
    (noFault : faults () = none) :
    getSubscriptionPlanById env id faults store = (.ok plan, store) := by
  unfold planOf at found
  unfold getSubscriptionPlanById
  split_ifs at found ⊢ with invalid
  cases cached : env.planCache id with
  | some =>
    rw [cached] at found
    cases found
    rfl
  | none =>
    rw [cached, Option.none_or] at found
    exact query_bind_eq_ok.mpr ⟨noFault, by rw [found]; rfl⟩

theorem maybeReset_apply {sub row plan faults} (found : store.subscriptions.find? sub.id = some sub)
    (ran : maybeResetUserSubscriptionWithPlanTx env sub plan now faults store = (.ok row, after)) :
    row = (RowWrite.check plan).apply env now sub ∧ after = store.saveSubscription row := by
  unfold maybeResetUserSubscriptionWithPlanTx at ran
  simp only [RowWrite.apply]
  rcases outcome : resetOutcome env sub plan now with _ | _ | written
  · rw [outcome] at ran
    cases (diverge_eq.mp ran).1
  · rw [outcome] at ran
    obtain ⟨rfl, rfl⟩ := pure_eq_ok.mp ran
    refine ⟨rfl, ?_⟩
    rw [saveSubscription, Table.save_self (Table.find?_eq_some.mp found).1]
  · rw [outcome] at ran
    obtain ⟨rfl, rfl⟩ := pure_eq_ok.mp (execute_bind_eq_ok.mp ran).2
    exact ⟨rfl, rfl⟩

theorem consumeFirst_evolves {faults res} (pos : 0 < amount) (subs) (current : Current store subs)
    (mayCheck : ∀ sub ∈ subs, ∀ plan, planOf env store sub.planId = some plan → allowed sub.id (.check plan))
    (mayCharge : ∀ id, allowed id (.charge amount))
    (ran : consumeFirst env requestId userId amount now subs faults store = (.ok res, after)) :
    Evolves env now allowed store after := by
  induction subs generalizing store with
  | nil => cases (fail_eq.mp ran).1
  | cons candidate _ ih =>
    obtain ⟨plan, _, planned, cont⟩ := bind_eq_ok.mp ran
    obtain ⟨plan_eq, rfl⟩ := getSubscriptionPlanById_ok planned
    rename_i store
    obtain ⟨_, _, checked, done⟩ := bind_eq_ok.mp cont
    have found := current.stored candidate (by simp)
    obtain ⟨rfl, rfl⟩ := maybeReset_apply found checked
    have reset : Evolves env now allowed store (store.saveSubscription
      ((RowWrite.check plan).apply env now candidate)) :=
      evolves_save found (mayCheck candidate (by simp) plan plan_eq)
    split_ifs at done with short
    · exact evolves_trans reset (ih (current_save current (apply_id _ _ _ _))
        (fun sub mem => mayCheck sub (by simp [mem])) done)
    · rcases consumeRow_cases done with ⟨rfl, -⟩ | ⟨-, -, rfl⟩
      · exact reset
      · have stored := saveSubscription_stored found (apply_id env now candidate (.check plan))
        have fits : 0 < ((RowWrite.check plan).apply env now candidate).amountTotal →
            ((RowWrite.check plan).apply env now candidate).amountUsed + amount ≤
              ((RowWrite.check plan).apply env now candidate).amountTotal := by
          intro limited
          by_contra exceeds
          exact short ⟨limited, by omega⟩
        exact evolves_trans (evolves_trans reset (evolves_insertRecord _ _))
          (evolves_charge pos fits stored (mayCharge _))

theorem preConsume_evolves
    (mayCheck : ∀ id write, Checks env store id write → allowed id write)
    (mayCharge : ∀ id, allowed id (.charge amount))
    {faults result} (ran : preConsumeUserSubscription env requestId userId amount now faults store = (result, after)) :
    Evolves env now allowed store after := by
  unfold preConsumeUserSubscription at ran
  split_ifs at ran with badUser blank nonpositive
  · rw [(fail_eq.mp ran).2]
    exact evolves_refl store
  · rw [(fail_eq.mp ran).2]
    exact evolves_refl store
  · rw [(fail_eq.mp ran).2]
    exact evolves_refl store
  · apply transaction_store _ ran (evolves_refl store)
    intro _ _ body
    obtain ⟨rfl, -⟩ | done := preConsumeInTx_cases body
    · exact evolves_refl _
    · have current := current_candidates store userId now
      exact consumeFirst_evolves (not_le.mp nonpositive) _ current
        (fun sub mem plan found => mayCheck _ _ ⟨sub, plan, current.stored sub mem, found, rfl⟩) mayCharge done

theorem evolves_adjusted (may : allowed id (.adjust delta)) (adjusted : Adjusted id delta store after) :
    Evolves env now allowed store after := by
  obtain ⟨sub, found, fits, rfl⟩ := adjusted
  obtain rfl := (Table.find?_eq_some.mp found).2
  have applied : (RowWrite.adjust delta).apply env now sub = adjust sub delta := by
    rw [RowWrite.apply, if_neg]
    rintro ⟨limited, exceeds⟩
    exact absurd (fits limited) (not_le.mpr exceeds)
  rw [← applied]
  exact evolves_save found may

theorem postConsume_evolves (may : allowed id (.adjust delta)) {faults result}
    (ran : postConsumeUserSubscriptionDelta id delta faults store = (result, after)) :
    Evolves env now allowed store after := by
  by_cases nothing : delta = 0
  · subst nothing
    have same : after = store := by
      unfold postConsumeUserSubscriptionDelta at ran
      split_ifs at ran
      · exact (fail_eq.mp ran).2
      · exact (pure_eq.mp ran).2
      · contradiction
    rw [same]
    exact evolves_refl store
  · rcases postConsumeUserSubscriptionDelta_cases nothing ran with ⟨-, -, -, adjusted⟩ | ⟨-, rfl⟩
    · exact evolves_adjusted may adjusted
    · exact evolves_refl _

theorem markRefunded_evolves {record} : Db.Relates (Evolves env now allowed) (markRefunded record) := by
  apply relates_bind (Evolves env now allowed) (fun _ _ _ => evolves_trans)
  · exact relates_readOnly (Evolves env now allowed) evolves_refl (readOnly_query _ _)
  · intro _
    exact relates_statement (Evolves env now allowed) evolves_refl fun _ => evolves_of_same rfl rfl

theorem refund_evolves (may : ∀ record, store.records.find? requestId = some record → record.status = .consumed →
      allowed record.userSubscriptionId (.adjust (-record.preConsumed))) {faults result}
    (ran : refundSubscriptionPreConsume requestId faults store = (result, after)) :
    Evolves env now allowed store after := by
  unfold refundSubscriptionPreConsume at ran
  split_ifs at ran with blank
  · rw [(fail_eq.mp ran).2]
    exact evolves_refl store
  · rcases bind_readOnly (readOnly_query _ _) ran with rfl | ⟨_, -, begun⟩
    · exact evolves_refl _
    · rcases bind_readOnly (readOnly_query _ _) begun with rfl | ⟨found, locked, cont⟩
      · exact evolves_refl _
      · obtain ⟨-, rfl, -⟩ := query_eq_ok.mp locked
        cases recorded : store.records.find? requestId with
        | none =>
          rw [recorded] at cont
          rw [(fail_eq.mp cont).2]
          exact evolves_refl _
        | some record =>
          rw [recorded] at cont
          dsimp only at cont
          split_ifs at cont with refunded nothing
          · exact relates_readOnly (Evolves env now allowed) evolves_refl (readOnly_query _ _) _ _ _ _ cont
          · exact markRefunded_evolves _ _ _ _ cont
          · have consumed : record.status = .consumed := by
              cases status : record.status with
              | consumed => rfl
              | refunded => exact absurd status refunded
            refine relates_bind (Evolves env now allowed) (fun _ _ _ => evolves_trans) ?_
              (fun _ => markRefunded_evolves) _ _ _ _ cont
            intro _ _ _ _ changed
            exact postConsume_evolves (may record recorded consumed) changed

theorem resetDueRow_cases {sub faults result} (ran : resetDueRow env now sub faults store = (result, after)) :
    (after = store ∧ ∀ count, result = .ok count → count = 0) ∨ ∃ plan row, result = .ok 1 ∧
      planOf env store sub.planId = some plan ∧
        store.subscriptions.find? sub.id = some row ∧ SubscriptionStore.ResetDue now row ∧
          resetOutcome env row plan now ≠ none ∧
        after = store.saveSubscription ((RowWrite.check plan).apply env now row) := by
  rcases looked : attempt ((getSubscriptionPlanById env sub.planId).within fun _ => ResetDueStatement.plan sub.id)
    faults store with ⟨found, opened⟩
  obtain rfl : opened = store :=
    readOnly_attempt (readOnly_within (getSubscriptionPlanById_readOnly env _)) _ _ _ _ looked
  cases found with
  | error =>
    rw [resetDueRow, bind_apply, looked] at ran
    cases ran
    exact .inl ⟨rfl, fun count bad => by cases bad⟩
  | ok =>
    rw [resetDueRow, bind_of_ok looked] at ran
    rcases attempt_eq_ok.mp looked with ⟨plan, rfl, planned⟩ | ⟨_, rfl, -⟩
    swap
    · obtain ⟨rfl, rfl⟩ := pure_eq.mp ran
      exact .inl ⟨rfl, fun _ same => (Except.ok.inj same).symm⟩
    cases result with
    | error =>
      rw [transaction_error_store ran]
      exact .inl ⟨rfl, fun _ bad => by cases bad⟩
    | ok _ =>
      obtain ⟨-, -, body⟩ := transaction_eq_ok.mp ran
      rcases attempt_query_bind body with done | ⟨_, done⟩
      · cases due : (opened.subscriptions.find? sub.id).filter fun row => SubscriptionStore.ResetDue now row with
        | none =>
          rw [due] at done
          obtain ⟨rfl, rfl⟩ := pure_eq_ok.mp done
          exact .inl ⟨rfl, fun _ same => (Except.ok.inj same).symm⟩
        | some row =>
          rw [due] at done
          obtain ⟨stored, passed⟩ := Option.filter_eq_some_iff.mp due
          have same := (Table.find?_eq_some.mp stored).2
          obtain ⟨_, _, checked, ret⟩ := bind_eq_ok.mp done
          obtain ⟨counted, rfl⟩ := pure_eq.mp ret
          cases counted
          have ends : resetOutcome env row plan now ≠ none := by
            intro diverges
            rw [within_apply, maybeResetUserSubscriptionWithPlanTx, diverges] at checked
            cases (diverge_eq.mp checked).1
          rw [← same] at stored
          obtain ⟨rfl, rfl⟩ := maybeReset_apply stored checked
          rw [same] at stored
          exact .inr ⟨plan, row, rfl, (getSubscriptionPlanById_ok planned).1, stored, by simpa using passed, ends, rfl⟩
      · obtain ⟨rfl, rfl⟩ := pure_eq_ok.mp done
        exact .inl ⟨rfl, fun _ same => (Except.ok.inj same).symm⟩

theorem resetDueRow_evolves {sub} (mayCheck : ∀ plan, planOf env store sub.planId = some plan →
    allowed sub.id (.check plan))
    {faults result} (ran : resetDueRow env now sub faults store = (result, after)) :
    Evolves env now allowed store after := by
  rcases resetDueRow_cases ran with ⟨rfl, -⟩ | ⟨plan, _, -, planned, stored, -, -, rfl⟩
  · exact evolves_refl _
  · have same := (Table.find?_eq_some.mp stored).2
    rw [← same] at stored
    apply evolves_save stored
    rw [same]
    exact mayCheck plan planned

theorem resetDueRows_evolves (before : SubscriptionStore) (subs)
    (mayCheck : ∀ sub ∈ subs, ∀ plan, planOf env before sub.planId = some plan → allowed sub.id (.check plan)) :
    Db.Relates (fun store after => store.plans = before.plans → Evolves env now allowed store after)
      (resetDueRows env now subs) := by
  have trans : ∀ a b c : SubscriptionStore, (a.plans = before.plans → Evolves env now allowed a b) →
      (b.plans = before.plans → Evolves env now allowed b c) → a.plans = before.plans → Evolves env now allowed a c :=
    fun a b c first second same => evolves_trans (first same) (second ((first same).plans.trans same))
  induction subs with
  | nil => exact relates_readOnly _ (fun store _ => evolves_refl store) (readOnly_pure 0)
  | cons sub _ ih =>
    apply relates_bind _ trans
    · intro _ store _ _ ran same
      refine resetDueRow_evolves (fun plan found => mayCheck sub (by simp) plan ?_) ran
      rwa [planOf, same] at found
    · intro _
      apply relates_bind _ trans
      · exact ih fun other mem => mayCheck other (by simp [mem])
      · intro _
        exact relates_readOnly _ (fun store _ => evolves_refl store) (readOnly_pure _)

theorem resetDue_evolves {limit} (mayCheck : ∀ id write, Checks env store id write → allowed id write) {faults result}
    (ran : resetDueSubscriptions env limit now faults store = (result, after)) :
    Evolves env now allowed store after := by
  rcases bind_readOnly (readOnly_query _ _) ran with rfl | ⟨subs, looked, cont⟩
  · exact evolves_refl _
  · obtain ⟨-, rfl, -⟩ := query_eq_ok.mp looked
    refine resetDueRows_evolves store _ ?_ _ _ _ _ cont rfl
    intro sub mem plan found
    have stored := mem_of_mem_filter ((mem_insertionSort resetsBefore).mp (mem_of_mem_take mem))
    exact mayCheck _ _ ⟨sub, plan, Table.find?_eq_some.mpr ⟨stored, rfl⟩, found, rfl⟩

theorem resetUserSubscriptionsTx_evolves {plan} (subs) (current : Current store subs)
    (may : ∀ sub ∈ subs, allowed sub.id (.adminReset plan advanceResetTime)) {faults value}
    (ran : resetUserSubscriptionsTx env plan now advanceResetTime subs faults store = (.ok value, after)) :
    Evolves env now allowed store after := by
  induction subs generalizing store with
  | nil =>
    rw [(pure_eq.mp ran).2]
    exact evolves_refl _
  | cons sub _ ih =>
    obtain ⟨_, _, saved, cont⟩ := bind_eq_ok.mp ran
    rw [resetUserSubscriptionTx, saveRow] at saved
    obtain ⟨-, rfl⟩ := execute_eq_ok.mp saved
    have first : Evolves env now allowed store (store.saveSubscription
      ((RowWrite.adminReset plan advanceResetTime).apply env now sub)) :=
      evolves_save (current.stored sub (by simp)) (may sub (by simp))
    exact evolves_trans first (ih (current_save current (apply_id env now sub (.adminReset plan advanceResetTime)))
      (fun other mem => may other (by simp [mem])) cont)

variable (may : ∀ id write, AdminResets env now store planId advanceResetTime id write → allowed id write)

include may in
theorem adminResetUser_evolves {faults result} (ran : adminResetUserSubscriptionsByPlan env userId
    planId advanceResetTime now faults store = (result, after)) :
    Evolves env now allowed store after := by
  unfold adminResetUserSubscriptionsByPlan at ran
  split_ifs at ran with invalid
  · rw [(fail_eq.mp ran).2]
    exact evolves_refl _
  · apply transaction_store _ ran (evolves_refl store)
    intro _ _ body
    obtain ⟨plan, store, planned, cont⟩ := bind_eq_ok.mp body
    obtain ⟨plan_eq, rfl⟩ := getSubscriptionPlanById_ok planned
    obtain ⟨-, resetting⟩ := query_bind_eq_ok.mp cont
    split_ifs at resetting with none
    · cases (fail_eq.mp resetting).1
    · obtain ⟨_, _, writing, ret⟩ := bind_eq_ok.mp resetting
      rw [(pure_eq.mp ret).2]
      have all := current_candidates store userId now
      have current : Current store ((store.candidates userId now).filter fun sub => sub.planId = plan.id) :=
        ⟨all.distinct.sublist (filter_sublist.map _), fun sub mem => all.stored sub (mem_of_mem_filter mem)⟩
      refine resetUserSubscriptionsTx_evolves _ current ?_ writing
      intro sub mem
      obtain ⟨chosen, samePlan⟩ := mem_filter.mp mem
      obtain ⟨-, conditions⟩ := mem_filter.mp ((mem_insertionSort endsBefore).mp chosen)
      simp only [decide_eq_true_eq] at conditions samePlan
      exact may _ _ ⟨sub, plan, current.stored sub mem, conditions.2.1, conditions.2.2, plan_eq, samePlan, rfl⟩

include may in
theorem adminResetPlan_evolves {faults result} (ran : adminResetPlanSubscriptions env planId
    advanceResetTime now faults store = (result, after)) :
    Evolves env now allowed store after := by
  unfold adminResetPlanSubscriptions at ran
  split_ifs at ran with invalid
  · rw [(fail_eq.mp ran).2]
    exact evolves_refl _
  · apply transaction_store _ ran (evolves_refl store)
    intro _ _ body
    obtain ⟨plan, store, planned, cont⟩ := bind_eq_ok.mp body
    obtain ⟨plan_eq, rfl⟩ := getSubscriptionPlanById_ok planned
    obtain ⟨-, resetting⟩ := query_bind_eq_ok.mp cont
    obtain ⟨_, _, writing, ret⟩ := bind_eq_ok.mp resetting
    rw [(pure_eq.mp ret).2]
    have sorted := perm_insertionSort userBefore (store.subscriptions.rows.filter fun sub =>
      sub.planId = plan.id ∧ sub.status = .active ∧ now < sub.endTime)
    have current : Current store (planSubscriptions store plan.id now) := by
      apply current_of_rows
      · exact (sorted.map _).nodup_iff.mpr (store.subscriptions.unique.sublist (filter_sublist.map _))
      · exact fun sub mem => mem_of_mem_filter (sorted.mem_iff.mp mem)
    refine resetUserSubscriptionsTx_evolves _ current ?_ writing
    intro sub mem
    obtain ⟨-, conditions⟩ := mem_filter.mp (sorted.mem_iff.mp mem)
    simp only [decide_eq_true_eq] at conditions
    exact may _ _ ⟨sub, plan, current.stored sub mem, conditions.2.1, conditions.2.2, plan_eq, conditions.1, rfl⟩

theorem expireRows_evolves (may : ∀ id, allowed id .expire) (store) (userId : Int) :
    Evolves env now allowed store (store.expireRows userId now) where
  plans := rfl
  rows id := by
    rw [expireRows, Table.find?_modify]
    cases found : store.subscriptions.find? id with
    | none => exact ⟨[], by simp, by simp⟩
    | some sub =>
      by_cases own : sub.userId = userId
      · refine ⟨[.expire], by simpa using may id, ?_⟩
        simp [RowWrite.apply, expireRow, own]
      · exact ⟨[], by simp, by simp [expireRow, own]⟩

def StoreEvolves (env : SubscriptionEnv) (now : Int) (allowed : Int → RowWrite → Prop)
    (before after : OrderStore) : Prop :=
  Evolves env now allowed before.subscriptions after.subscriptions

theorem storeEvolves_refl (store) : StoreEvolves env now allowed store store := evolves_refl _

theorem storeEvolves_trans (a b c : OrderStore) (first : StoreEvolves env now allowed a b)
    (second : StoreEvolves env now allowed b c) : StoreEvolves env now allowed a c := evolves_trans first second

end Calls
/-! ## Purchases -/

theorem purchase_subscriptions {env : OrderEnv} {state : SubscriptionState} {userId : Int} {plan source faults}
    (holds : SubscriptionStore → Prop) (before : holds state.store.subscriptions)
    (bought : ∀ endUnix prevGroup, holds (state.store.subscriptions.insertSubscription
      (planSubscription env userId plan source state.now endUnix prevGroup))) :
    holds (state.step env (.purchase userId plan source faults)).store.subscriptions := by
  rcases ran : purchaseTx env userId plan source state.now faults state.store with ⟨_, _⟩
  simp only [SubscriptionState.step, SubscriptionState.onStore, ran]
  apply transaction_store (fun store : OrderStore => holds store.subscriptions) ran before
  intro _ _ creating
  obtain ⟨endUnix, prevGroup, _, -, -, -, -, moved, rfl⟩ := createUserSubscriptionFromPlanTx_ok creating
  obtain ⟨_, rfl⟩ := upgraded_frame moved
  exact bought endUnix prevGroup

end NewApi.Proof
