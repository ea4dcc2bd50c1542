import NewApi.Proof.BillingStore

/-! # Charging a subscription -/

namespace NewApi.Proof
open Library Common Model Service Db
variable {env : SubscriptionEnv} {now : Int}

def planOf (env : SubscriptionEnv) (store : SubscriptionStore) (planId : Int) : Option SubscriptionPlan :=
  if planId ≤ 0 then none else (env.planCache planId).or (store.plans.find? planId)

/-- The row as a reset check by its own plan leaves it. -/
def Refreshed (env : SubscriptionEnv) (store : SubscriptionStore) (now : Int) (sub row : UserSubscription) : Prop :=
  row = sub ∨ ∃ plan, planOf env store sub.planId = some plan ∧ resetOutcome env sub plan now = some (some row)

structure RefreshedStore (env : SubscriptionEnv) (now : Int) (before after : SubscriptionStore) : Prop where
  plans : after.plans = before.plans
  records : after.records = before.records
  absent : ∀ id, before.subscriptions.find? id = none → after.subscriptions.find? id = none
  present : ∀ id sub, before.subscriptions.find? id = some sub →
    ∃ row, after.subscriptions.find? id = some row ∧ Refreshed env before now sub row

def SubscriptionCharged (env : SubscriptionEnv) (now : Int) (requestId : String) (userId id amount : Int)
    (before after : SubscriptionStore) : Prop :=
  ∃ middle sub row, RefreshedStore env now before middle ∧
    before.subscriptions.find? id = some sub ∧ sub ∈ before.active userId now ∧ Refreshed env before now sub row ∧
    (0 < row.amountTotal → row.amountUsed + amount ≤ row.amountTotal) ∧
    after = (middle.insertRecord ⟨requestId, userId, id, amount, .consumed⟩).saveSubscription
      { row with amountUsed := row.amountUsed + amount }

section Resets
variable {sub row : UserSubscription} {plan : SubscriptionPlan} {origin : SubscriptionStore}

theorem resetOutcome_row (due : resetOutcome env sub plan now = some (some row)) :
    ∃ used base next, (used = sub.amountUsed ∨ used = 0) ∧
      row = { sub with amountUsed := used, lastResetTime := base, nextResetTime := next } := by
  unfold resetOutcome at due
  split_ifs at due
  · simp at due
  · simp at due
  · obtain ⟨⟨base, next⟩, -, written⟩ := Option.map_eq_some_iff.mp due
    unfold resetRow at written
    split_ifs at written
    · exact ⟨0, base, next, .inr rfl, (Option.some.inj written).symm⟩
    · exact ⟨sub.amountUsed, base, next, .inl rfl, (Option.some.inj written).symm⟩

theorem refreshed_row (refreshed : Refreshed env origin now sub row) :
    ∃ used base next, (used = sub.amountUsed ∨ used = 0) ∧
      row = { sub with amountUsed := used, lastResetTime := base, nextResetTime := next } := by
  rcases refreshed with rfl | ⟨plan, -, due⟩
  · exact ⟨row.amountUsed, row.lastResetTime, row.nextResetTime, .inl rfl, rfl⟩
  · exact resetOutcome_row due

theorem refreshed_id (refreshed : Refreshed env origin now sub row) : row.id = sub.id := by
  obtain ⟨_, _, _, -, rfl⟩ := refreshed_row refreshed
  rfl

theorem refreshedStore_refl (store) : RefreshedStore env now store store where
  plans := rfl
  records := rfl
  absent _ none := none
  present _ sub found := ⟨sub, found, .inl rfl⟩

theorem refreshedStore_save {before middle} (refreshed : RefreshedStore env now before middle)
    (mem : sub ∈ before.subscriptions.rows) (due : Refreshed env before now sub row) :
    RefreshedStore env now before (middle.saveSubscription row) where
  plans := refreshed.plans
  records := refreshed.records
  absent id none := by
    rw [SubscriptionStore.saveSubscription, Table.find?_save, refreshed.absent id none]
    simp
  present id original found := by
    obtain ⟨current, stored, currentRefreshed⟩ := refreshed.present id original found
    rw [SubscriptionStore.saveSubscription, Table.find?_save, stored]
    by_cases same : id = row.id
    · rw [if_pos same]
      refine ⟨row, rfl, ?_⟩
      have own : before.subscriptions.find? id = some sub :=
        Table.find?_eq_some.mpr ⟨mem, (refreshed_id due).symm.trans same.symm⟩
      obtain rfl : sub = original := Option.mem_unique own found
      exact due
    · rw [if_neg same]
      exact ⟨current, rfl, currentRefreshed⟩

end Resets

section Steps
variable {requestId : String} {userId amount : Int} {before store after : SubscriptionStore}

theorem getSubscriptionPlanById_readOnly (env) (id : Int) : Db.ReadOnly (getSubscriptionPlanById env id) := by
  refine readOnly_ite (readOnly_fail _) ?_
  cases env.planCache id with
  | some plan => exact readOnly_pure plan
  | none =>
    refine readOnly_bind (readOnly_query _ _) fun found => ?_
    cases found with
    | some plan => exact readOnly_pure plan
    | none => exact readOnly_fail _

theorem getSubscriptionPlanById_ok {id plan faults} (ran : getSubscriptionPlanById env id faults
    store = (.ok plan, after)) :
    planOf env store id = some plan ∧ after = store := by
  refine ⟨?_, getSubscriptionPlanById_readOnly env id _ _ _ _ ran⟩
  unfold getSubscriptionPlanById at ran
  unfold planOf
  split_ifs at ran ⊢ with invalid
  · cases (fail_eq.mp ran).1
  · cases cached : env.planCache id with
    | some =>
      rw [cached] at ran
      cases (pure_eq.mp ran).1
      rfl
    | none =>
      rw [cached] at ran
      obtain ⟨-, ret⟩ := query_bind_eq_ok.mp ran
      cases stored : store.plans.find? id with
      | none =>
        rw [stored] at ret
        cases (fail_eq.mp ret).1
      | some =>
        rw [stored] at ret
        cases (pure_eq.mp ret).1
        rfl

theorem maybeReset_ok {sub row plan faults} (own : planOf env before sub.planId = some plan)
    (ran : maybeResetUserSubscriptionWithPlanTx env sub plan now faults store = (.ok row, after)) :
    Refreshed env before now sub row ∧ (after = store ∨ after = store.saveSubscription row) := by
  unfold maybeResetUserSubscriptionWithPlanTx at ran
  cases outcome : resetOutcome env sub plan now with
  | none =>
    rw [outcome] at ran
    cases (diverge_eq.mp ran).1
  | some written =>
    rw [outcome] at ran
    cases written with
    | none =>
      obtain ⟨rfl, rfl⟩ := pure_eq_ok.mp ran
      exact ⟨.inl rfl, .inl rfl⟩
    | some =>
      obtain ⟨-, ret⟩ := execute_bind_eq_ok.mp ran
      obtain ⟨rfl, rfl⟩ := pure_eq_ok.mp ret
      exact ⟨.inr ⟨plan, own, outcome⟩, .inr rfl⟩

theorem consumeRow_cases {sub faults res} (ran : consumeRow requestId userId amount sub faults
    store = (.ok res, after)) :
    (after = store ∧ ∃ dup, store.records.find? requestId = some dup ∧ res.preConsumed = dup.preConsumed) ∨
      (store.records.find? requestId = none ∧ res = ⟨sub.id, amount, sub.amountTotal,
        sub.amountUsed, sub.amountUsed + amount⟩ ∧
        after = (store.insertRecord ⟨requestId, userId, sub.id, amount, .consumed⟩).saveSubscription
          { sub with amountUsed := sub.amountUsed + amount }) := by
  obtain ⟨created, middle, tried, cont⟩ := bind_eq_ok.mp ran
  rcases attempt_eq_ok.mp tried with ⟨_, rfl, inserted⟩ | ⟨_, rfl, rejected⟩
  · obtain ⟨-, created⟩ := query_bind_eq_ok.mp inserted
    cases recorded : store.records.find? requestId with
    | none =>
      rw [recorded] at created
      obtain ⟨-, rfl⟩ := record_eq.mp created
      obtain ⟨-, ret⟩ := execute_bind_eq_ok.mp cont
      obtain ⟨rfl, rfl⟩ := pure_eq_ok.mp ret
      exact .inr ⟨rfl, rfl, rfl⟩
    | some =>
      rw [recorded] at created
      cases (fail_eq.mp created).1
  · -- without a duplicate to fall back on, the error of the insert is returned
    obtain rfl : middle = store := by
      rcases bind_eq_error.mp rejected with failed | ⟨existing, kept, looked, failed⟩
      · exact (query_eq_error.mp failed).1
      · obtain ⟨-, rfl, rfl⟩ := query_eq_ok.mp looked
        cases recorded : kept.records.find? requestId with
        | none =>
          rw [recorded] at failed
          cases (record_eq.mp failed).1
        | some =>
          rw [recorded] at failed
          exact (fail_eq.mp failed).2
    rcases attempt_query_bind cont with done | ⟨_, done⟩
    · cases recorded : middle.records.find? requestId with
      | none =>
        rw [recorded] at done
        cases (fail_eq.mp done).1
      | some dup =>
        rw [recorded] at done
        dsimp only at done
        split_ifs at done
        · cases (fail_eq.mp done).1
        · obtain ⟨rfl, rfl⟩ := pure_eq_ok.mp done
          exact .inl ⟨rfl, dup, rfl, rfl⟩
    · cases (fail_eq.mp done).1

theorem preConsumeInTx_cases {faults res} (ran : preConsumeInTx env requestId userId amount now
    faults before = (.ok res, after)) :
    (after = before ∧ before.records.find? requestId ≠ none) ∨
      consumeFirst env requestId userId amount now (before.candidates userId now) faults before = (.ok res, after) := by
  obtain ⟨-, cont⟩ := query_bind_eq_ok.mp ran
  cases recorded : before.records.find? requestId with
  | some record =>
    rw [recorded] at cont
    dsimp only at cont
    split_ifs at cont
    · cases (fail_eq.mp cont).1
    · obtain ⟨found, _, searching, ret⟩ := bind_eq_ok.mp cont
      obtain ⟨-, -, rfl⟩ := query_eq_ok.mp searching
      cases found with
      | none => cases (fail_eq.mp ret).1
      | some => exact .inl ⟨(pure_eq.mp ret).2, by simp⟩
  | none =>
    rw [recorded] at cont
    rcases attempt_query_bind cont with done | ⟨_, done⟩
    · generalize before.candidates userId now = subs at done ⊢
      cases subs with
      | nil => cases (fail_eq.mp done).1
      | cons => exact .inr done
    · cases (fail_eq.mp done).1

section Fresh
variable (fresh : before.records.find? requestId = none)
include fresh

theorem consumeFirst_ok {faults res} (subs)
    (active : ∀ sub ∈ subs, sub ∈ before.active userId now) (refreshed : RefreshedStore env now before store)
    (ran : consumeFirst env requestId userId amount now subs faults store = (.ok res, after)) :
    SubscriptionCharged env now requestId userId res.userSubscriptionId amount before after ∧
      res.preConsumed = amount := by
  induction subs generalizing store with
  | nil => cases (fail_eq.mp ran).1
  | cons candidate _ ih =>
    obtain ⟨_, _, planned, cont⟩ := bind_eq_ok.mp ran
    rw [readOnly_within (getSubscriptionPlanById_readOnly env _) _ _ _ _ planned] at cont
    obtain ⟨row, middle, checked, done⟩ := bind_eq_ok.mp cont
    rw [within_apply] at planned checked
    have own := (getSubscriptionPlanById_ok planned).1
    rw [planOf, refreshed.plans] at own
    obtain ⟨due, written⟩ := maybeReset_ok own checked
    have candidateActive := active candidate (by simp)
    have mem : candidate ∈ before.subscriptions.rows := List.mem_of_mem_filter candidateActive
    have next : RefreshedStore env now before middle := by
      rcases written with rfl | rfl
      · exact refreshed
      · exact refreshedStore_save refreshed mem due
    split_ifs at done with short
    · exact ih (fun sub later => active sub (by simp [later])) next done
    · have stillFresh : middle.records.find? requestId = none := by rw [next.records, fresh]
      obtain ⟨-, _, recorded, -⟩ | ⟨-, rfl, rfl⟩ := consumeRow_cases done
      · cases stillFresh.symm.trans recorded
      refine ⟨⟨middle, candidate, row, next, ?_, candidateActive, due, ?_, rfl⟩, rfl⟩
      · exact Table.find?_eq_some.mpr ⟨mem, (refreshed_id due).symm⟩
      · intro total
        by_contra exceeds
        exact short ⟨total, by omega⟩

theorem preConsumeInTx_ok {faults res} (ran : preConsumeInTx env requestId userId amount now faults
    before = (.ok res, after)) :
    SubscriptionCharged env now requestId userId res.userSubscriptionId amount before after ∧
      res.preConsumed = amount := by
  obtain ⟨-, recorded⟩ | done := preConsumeInTx_cases ran
  · exact absurd fresh recorded
  · exact consumeFirst_ok fresh _ (fun _ =>
      (List.mem_insertionSort SubscriptionStore.endsBefore).mp) (refreshedStore_refl _) done

theorem preConsumeUserSubscription_ok {faults res}
    (ran : preConsumeUserSubscription env requestId userId amount now faults before = (.ok res, after)) :
    trimSpace requestId ≠ "" ∧ 0 < amount ∧ res.preConsumed = amount ∧
      SubscriptionCharged env now requestId userId res.userSubscriptionId amount before after := by
  unfold preConsumeUserSubscription at ran
  split_ifs at ran with badUser blank nonpositive
  · cases (fail_eq.mp ran).1
  · cases (fail_eq.mp ran).1
  · cases (fail_eq.mp ran).1
  · obtain ⟨-, -, body⟩ := transaction_eq_ok.mp ran
    obtain ⟨charged, amount_eq⟩ := preConsumeInTx_ok fresh body
    exact ⟨blank, not_le.mp nonpositive, amount_eq, charged⟩

end Fresh

theorem preConsumeUserSubscription_error {faults halt}
    (ran : preConsumeUserSubscription env requestId userId amount now faults before =
    (.error halt, after)) : after = before := by
  unfold preConsumeUserSubscription at ran
  split_ifs at ran
  · exact (fail_eq.mp ran).2
  · exact (fail_eq.mp ran).2
  · exact (fail_eq.mp ran).2
  · exact transaction_error_store ran

end Steps
end NewApi.Proof
