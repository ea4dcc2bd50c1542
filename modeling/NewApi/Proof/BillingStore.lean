import Mathlib.Tactic.Linarith
import NewApi.Service.SessionRun

namespace NewApi.Proof
open Library Model Service Accounts Db

section Accounts
variable (accounts : Accounts) (inMemory : Bool) (id other a b : Int)

@[simp] theorem userBalance_changeUser : (accounts.changeUser inMemory id a).userBalance other =
    accounts.userBalance other + if other = id then a else 0 := by
  cases inMemory <;> by_cases same : other = id <;>
    simp [changeUser, addUserRecord, updateUserQuota, userBalance, same] <;>
    omega

@[simp] theorem tokenBalance_changeUser : (accounts.changeUser inMemory id a).tokenBalance other =
    accounts.tokenBalance other := by
  cases inMemory <;> rfl

@[simp] theorem tokenBalance_changeToken : (accounts.changeToken inMemory id a).tokenBalance other =
    accounts.tokenBalance other + if other = id then a else 0 := by
  cases inMemory <;> by_cases same : other = id <;>
    simp [changeToken, addTokenRecord, updateTokenQuota, tokenBalance, same] <;>
    omega

@[simp] theorem userBalance_changeToken : (accounts.changeToken inMemory id a).userBalance other =
    accounts.userBalance other := by
  cases inMemory <;> rfl

theorem changeUser_undo : (accounts.changeUser inMemory id a).changeUser inMemory id (-a) = accounts := by
  cases inMemory <;> simp [changeUser, addUserRecord, updateUserQuota]

theorem changeToken_undo : (accounts.changeToken inMemory id a).changeToken inMemory id (-a) = accounts := by
  cases inMemory <;> simp [changeToken, addTokenRecord, updateTokenQuota]

end Accounts

section AccountFunctions
variable {env : AccountEnv} {id quota change : Int} {faults : Faults Unit String} {accounts after : Accounts}
  {result : Except (Halt String) Unit}

theorem guarded_cases {refused} {batched : Bool} (changed : Bool → Accounts → Accounts)
    (ran : (if quota < 0 then fail refused else if batched then record (changed true) else execute
    () (changed false) : AccountDb Unit)
      faults accounts = (result, after)) :
    (result = .ok () ∧ 0 ≤ quota ∧ after = changed batched accounts) ∨ Undone result accounts after := by
  split_ifs at ran with negative inMemory
  · obtain ⟨rfl, rfl⟩ := fail_eq.mp ran
    exact .inr ⟨⟨_, rfl⟩, rfl⟩
  · obtain ⟨rfl, rfl⟩ := record_eq.mp ran
    exact .inl ⟨rfl, not_lt.mp negative, by rw [inMemory]⟩
  · have off : batched = false := by simpa using inMemory
    cases result with
    | ok =>
      obtain ⟨-, rfl⟩ := execute_eq_ok.mp ran
      exact .inl ⟨rfl, not_lt.mp negative, by rw [off]⟩
    | error =>
      obtain ⟨rfl, reason, -, rfl⟩ := execute_eq_error.mp ran
      exact .inr ⟨⟨reason, rfl⟩, rfl⟩

theorem changeUserQuota_cases (ran : changeUserQuota env id quota change false faults accounts = (result, after)) :
    (result = .ok () ∧ 0 ≤ quota ∧ after = accounts.changeUser env.batchUpdateEnabled id change) ∨
      Undone result accounts after :=
  guarded_cases (fun batched accounts => accounts.changeUser batched id change) ran

theorem changeTokenQuota_cases (ran : changeTokenQuota env id quota change faults accounts = (result, after)) :
    (result = .ok () ∧ 0 ≤ quota ∧ after = accounts.changeToken env.batchUpdateEnabled id change) ∨
      Undone result accounts after :=
  guarded_cases (fun batched accounts => accounts.changeToken batched id change) ran

theorem changeUserQuota_succeeds (nonneg : 0 ≤ quota) (noFault : faults () = none) :
    changeUserQuota env id quota change false faults accounts =
      (.ok (), accounts.changeUser env.batchUpdateEnabled id change) := by
  unfold changeUserQuota
  rw [if_neg (not_lt.mpr nonneg)]
  cases batched : env.batchUpdateEnabled with
  | true => rfl
  | false => exact execute_eq_ok.mpr ⟨noFault, rfl⟩

theorem changeTokenQuota_succeeds (nonneg : 0 ≤ quota) (noFault : faults () = none) :
    changeTokenQuota env id quota change faults accounts =
      (.ok (), accounts.changeToken env.batchUpdateEnabled id change) := by
  unfold changeTokenQuota
  rw [if_neg (not_lt.mpr nonneg)]
  cases batched : env.batchUpdateEnabled with
  | true => rfl
  | false => exact execute_eq_ok.mpr ⟨noFault, rfl⟩

end AccountFunctions

def adjust (sub : UserSubscription) (delta : Int) : UserSubscription :=
  { sub with amountUsed := max 0 (sub.amountUsed + delta) }

def Adjusted (id delta : Int) (store after : SubscriptionStore) : Prop :=
  ∃ sub, store.subscriptions.find? id = some sub ∧
    (0 < sub.amountTotal → (adjust sub delta).amountUsed ≤ sub.amountTotal) ∧
    after = store.saveSubscription (adjust sub delta)

section Delta
variable {id delta : Int} {faults : Faults DeltaStatement String} {store after : SubscriptionStore}
  {result : Except (Halt String) Unit}

theorem clampedUsed_eq (used : Int) : (if used + delta < 0 then 0 else used + delta) = max 0 (used + delta) := by
  split_ifs <;> omega

theorem deltaInTx_eq_ok : deltaInTx id delta faults store = (.ok (), after) ↔
    faults .lock = none ∧ faults .save = none ∧ Adjusted id delta store after := by
  unfold deltaInTx Adjusted
  rw [bind_eq_ok]
  constructor
  · rintro ⟨_, middle, queried, ran⟩
    obtain ⟨lock, rfl, rfl⟩ := query_eq_ok.mp queried
    cases row : middle.subscriptions.find? id with
    | none =>
      rw [row] at ran
      cases (fail_eq.mp ran).1
    | some sub =>
      simp only [row, clampedUsed_eq] at ran
      split_ifs at ran with exceeded
      · cases (fail_eq.mp ran).1
      · obtain ⟨save, rfl⟩ := execute_eq_ok.mp ran
        exact ⟨lock, save, sub, rfl, fun pos => not_lt.mp fun exceeds => exceeded ⟨pos, exceeds⟩, rfl⟩
  · rintro ⟨lock, save, sub, row, fits, rfl⟩
    refine ⟨some sub, store, query_eq_ok.mpr ⟨lock, row.symm, rfl⟩, ?_⟩
    simp only [clampedUsed_eq]
    rw [if_neg fun exceeded => absurd (fits exceeded.1) (not_le.mpr exceeded.2)]
    exact execute_eq_ok.mpr ⟨save, rfl⟩

theorem postConsumeUserSubscriptionDelta_eq_ok (ne : delta ≠ 0) :
    postConsumeUserSubscriptionDelta id delta faults store = (.ok (), after) ↔
      0 < id ∧ (∀ label, faults label = none) ∧ Adjusted id delta store after := by
  unfold postConsumeUserSubscriptionDelta
  split_ifs with badId
  · constructor
    · intro ran
      cases (fail_eq.mp ran).1
    · rintro ⟨pos, -⟩
      exact absurd badId (not_le.mpr pos)
  · rw [transaction_eq_ok, deltaInTx_eq_ok]
    constructor
    · rintro ⟨_, _, _, _, adjusted⟩
      refine ⟨not_le.mp badId, fun label => ?_, adjusted⟩
      cases label <;> assumption
    · rintro ⟨-, noFault, adjusted⟩
      exact ⟨noFault _, noFault _, noFault _, noFault _, adjusted⟩

theorem deltaInTx_terminates (id delta : Int) : Db.Terminates (deltaInTx id delta) := by
  refine terminates_bind (terminates_statement _ _) fun found => ?_
  cases found with
  | none => exact terminates_fail _
  | some => exact terminates_ite (terminates_fail _) (terminates_statement _ _)

theorem postConsumeUserSubscriptionDelta_terminates (id delta : Int) :
    Db.Terminates (postConsumeUserSubscriptionDelta id delta) :=
  terminates_ite (terminates_fail _)
    (terminates_ite (terminates_pure _) (terminates_transaction (deltaInTx_terminates id delta)))

theorem postConsumeUserSubscriptionDelta_error {halt}
    (ran : postConsumeUserSubscriptionDelta id delta faults store = (.error halt, after)) : after = store := by
  unfold postConsumeUserSubscriptionDelta at ran
  split_ifs at ran
  · exact (fail_eq.mp ran).2
  · exact (pure_eq.mp ran).2
  · exact transaction_error_store ran

theorem postConsumeUserSubscriptionDelta_cases (ne : delta ≠ 0)
    (ran : postConsumeUserSubscriptionDelta id delta faults store = (result, after)) :
    (result = .ok () ∧ 0 < id ∧ (∀ label, faults label = none) ∧ Adjusted id delta store after) ∨
      Undone result store after := by
  cases result with
  | ok => exact .inl ⟨rfl, (postConsumeUserSubscriptionDelta_eq_ok ne).mp ran⟩
  | error halt =>
    have same := postConsumeUserSubscriptionDelta_error ran
    cases halt with
    | error reason => exact .inr ⟨⟨reason, rfl⟩, same⟩
    | diverges => exact absurd ran (postConsumeUserSubscriptionDelta_terminates id delta faults store after)

end Delta

section Parts
variable {κ κ' α : Type} {store after : BillingStore} {faults : Faults κ String}
  {result : Except (Halt String) α}

theorem onAccounts_eq {label body} : onAccounts label body faults store = (result, after) ↔
      ∃ accounts, body (fun _ => faults label) store.accounts = (result, accounts) ∧
        after = { store with accounts := accounts } := by
  rw [onAccounts, within_apply, zoom_eq]

theorem onSubscriptions_eq {scope : κ' → κ} {body} : onSubscriptions scope body faults store = (result, after) ↔
      ∃ subscriptions, body (fun label => faults (scope label)) store.subscriptions = (result, subscriptions) ∧
        after = { store with subscriptions := subscriptions } := by
  rw [onSubscriptions, within_apply, zoom_eq]

theorem onAccounts_terminates {label : κ} {body : AccountDb α} (ends : Db.Terminates body) :
    Db.Terminates (onAccounts label body) :=
  terminates_within (terminates_zoom ends)

theorem onSubscriptions_terminates {scope : κ' → κ} {body : SubscriptionDb κ' α} (ends : Db.Terminates body) :
    Db.Terminates (onSubscriptions scope body) :=
  terminates_within (terminates_zoom ends)

end Parts
end NewApi.Proof
