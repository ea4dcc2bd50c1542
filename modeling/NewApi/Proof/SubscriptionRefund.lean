import Mathlib.Order.Iterate
import Mathlib.Tactic.Positivity
import Mathlib.Tactic.Ring
import NewApi.Proof.BillingStore

/-! # Refunds of a subscription charge under failure and retry -/

namespace NewApi.Proof
open Library Common Model Service SubscriptionStore Db
variable {record : SubscriptionPreConsumeRecord} {sub : UserSubscription} {store : SubscriptionStore}

def refundStep (requestId : String) (store : SubscriptionStore) (faults : Faults RefundStatement String) :
    SubscriptionStore :=
  (refundSubscriptionPreConsume requestId faults store).2

def balanceStatements : List RefundStatement :=
  [.start, .lock, .delta .start, .delta .lock, .delta .save, .delta .commit]

def statusStatements : List RefundStatement := [.save, .commit]

def succeed (labels : List RefundStatement) (faults : Faults RefundStatement String) : Bool :=
  labels.all fun label => (faults label).isNone

def balanceChanges : List (Faults RefundStatement String) → Nat
  | [] => 0
  | faults :: rest =>
    if succeed balanceStatements faults then
      if succeed statusStatements faults then 1 else balanceChanges rest + 1
    else balanceChanges rest

def RefundedOnce (record : SubscriptionPreConsumeRecord) (before after : SubscriptionStore) : Prop :=
  let decrease := before.amountUsed record.userSubscriptionId - after.amountUsed record.userSubscriptionId
  decrease ≤ record.preConsumed ∧
    ((after.records.find? record.requestId).map (·.status) = some .refunded →
      decrease = min record.preConsumed (before.amountUsed record.userSubscriptionId))

structure Charged (record : SubscriptionPreConsumeRecord) (sub : UserSubscription)
    (store : SubscriptionStore) : Prop where
  recorded : store.records.find? record.requestId = some record
  row : store.subscriptions.find? record.userSubscriptionId = some sub

def Fits (record : SubscriptionPreConsumeRecord) (sub : UserSubscription) : Prop :=
  0 < sub.amountTotal → (adjust sub (-record.preConsumed)).amountUsed ≤ sub.amountTotal

instance (record : SubscriptionPreConsumeRecord) (sub : UserSubscription) : Decidable (Fits record sub) :=
  inferInstanceAs (Decidable (_ → _))

section Attempts
variable {faults : Faults RefundStatement String}

theorem succeed_balance : succeed balanceStatements faults = true ↔
    faults .start = none ∧ faults .lock = none ∧ ∀ label, faults (.delta label) = none := by
  simp only [succeed, balanceStatements, List.all_cons, List.all_nil, Bool.and_true,
    Bool.and_eq_true, Option.isNone_iff_eq_none]
  constructor
  · rintro ⟨start, lock, _, _, _, _⟩
    exact ⟨start, lock, fun label => by cases label <;> assumption⟩
  · rintro ⟨start, lock, inner⟩
    exact ⟨start, lock, inner _, inner _, inner _, inner _⟩

theorem succeed_status : succeed statusStatements faults = true ↔ faults .save = none ∧ faults .commit = none := by
  simp [succeed, statusStatements, Option.isNone_iff_eq_none]

theorem markRefunded_store : (markRefunded record faults store).2 =
    if succeed statusStatements faults then store.saveRecord { record with status := .refunded } else store := by
  unfold markRefunded
  rcases ran : (query RefundStatement.save (fun _ : SubscriptionStore => ()) >>= fun _ =>
    execute .commit fun store => store.saveRecord { record with status := .refunded }) faults store
    with ⟨result, after⟩
  cases result with
  | ok =>
    obtain ⟨save, committed⟩ := query_bind_eq_ok.mp ran
    obtain ⟨commit, rfl⟩ := execute_eq_ok.mp committed
    rw [if_pos (succeed_status.mpr ⟨save, commit⟩)]
  | error =>
    rcases bind_eq_error.mp ran with failed | ⟨_, middle, saved, failed⟩
    · obtain ⟨rfl, _, save, -⟩ := query_eq_error.mp failed
      rw [if_neg fun both => by simp [(succeed_status.mp both).1] at save]
    · obtain ⟨-, -, rfl⟩ := query_eq_ok.mp saved
      obtain ⟨rfl, _, commit, -⟩ := execute_eq_error.mp failed
      rw [if_neg fun both => by simp [(succeed_status.mp both).2] at commit]

theorem query_bind {κ σ α β : Type} {label : κ} {read : σ → α} {next : α → Db κ String σ β}
    {faults : Faults κ String} {store : σ} : ((query label read >>= next) faults store).2 =
      match faults label with
      | none => (next (read store) faults store).2
      | some _ => store := by
  rw [bind_apply, query, statement]
  cases faults label <;> rfl

theorem refundStep_eq (nonblank : trimSpace record.requestId ≠ "") (charged : Charged record sub store)
    (consumed : record.status = .consumed) (pos : 0 < record.preConsumed) (positiveId : 0 < record.userSubscriptionId) :
    refundStep record.requestId store faults =
      if succeed balanceStatements faults = true ∧ Fits record sub then
        (markRefunded record faults (store.saveSubscription (adjust sub (-record.preConsumed)))).2
      else store := by
  unfold refundStep refundSubscriptionPreConsume
  rw [if_neg nonblank, query_bind]
  cases start : faults .start with
  | some => rw [if_neg fun both => by simp [(succeed_balance.mp both.1).1] at start]
  | none =>
    dsimp only
    rw [query_bind]
    cases lock : faults .lock with
    | some => rw [if_neg fun both => by simp [(succeed_balance.mp both.1).2.1] at lock]
    | none =>
      simp only [charged.recorded, consumed, reduceCtorEq, if_false, not_le.mpr pos]
      rw [bind_apply, within_apply]
      rcases ran : postConsumeUserSubscriptionDelta record.userSubscriptionId (-record.preConsumed)
        (fun label => faults (.delta label)) store with ⟨result, after⟩
      have ne : -record.preConsumed ≠ 0 := by omega
      rcases postConsumeUserSubscriptionDelta_cases ne ran with
        ⟨rfl, -, inner, found, row, fits, rfl⟩ | ⟨⟨reason, rfl⟩, rfl⟩
      · obtain rfl : sub = found := Option.mem_unique charged.row row
        rw [if_pos ⟨succeed_balance.mpr ⟨start, lock, inner⟩, fits⟩]
      · rw [if_neg]
        rintro ⟨committed, fits⟩
        have ok := (postConsumeUserSubscriptionDelta_eq_ok ne).mpr
          ⟨positiveId, (succeed_balance.mp committed).2.2, sub, charged.row, fits, rfl⟩
        rw [ok] at ran
        cases ran

theorem refundSubscriptionPreConsume_succeeds (noFault : ∀ label, faults label = none)
    (nonblank : trimSpace record.requestId ≠ "") (charged : Charged record sub store)
    (consumed : record.status = .consumed) (pos : 0 < record.preConsumed)
    (positiveId : 0 < record.userSubscriptionId) (fits : Fits record sub) :
    refundSubscriptionPreConsume record.requestId faults store =
      (.ok (), (store.saveSubscription (adjust sub (-record.preConsumed))).saveRecord
        { record with status := .refunded }) := by
  unfold refundSubscriptionPreConsume
  rw [if_neg nonblank]
  refine query_bind_eq_ok.mpr ⟨noFault _, query_bind_eq_ok.mpr ⟨noFault _, ?_⟩⟩
  simp only [charged.recorded, consumed, reduceCtorEq, if_false, not_le.mpr pos]
  refine bind_eq_ok.mpr ⟨(), store.saveSubscription (adjust sub (-record.preConsumed)), ?_, ?_⟩
  · rw [within_apply]
    exact (postConsumeUserSubscriptionDelta_eq_ok (by omega)).mpr
      ⟨positiveId, fun _ => noFault _, sub, charged.row, fits, rfl⟩
  · exact query_bind_eq_ok.mpr ⟨noFault _, execute_eq_ok.mpr ⟨noFault _, rfl⟩⟩

theorem refundStep_refunded (refunded : record.status = .refunded)
    (recorded : store.records.find? record.requestId = some record) :
    refundStep record.requestId store faults = store := by
  unfold refundStep refundSubscriptionPreConsume
  split_ifs with blank
  · rfl
  · rw [query_bind]
    cases faults .start with
    | some => rfl
    | none =>
      dsimp only
      rw [query_bind]
      cases faults .lock with
      | some => rfl
      | none =>
        simp only [recorded, refunded, if_true]
        unfold query statement
        cases faults .commit <;> rfl

end Attempts

def drain (amount used : Int) : Int := max 0 (used - amount)

theorem drain_iterate {amount} (nonneg : 0 ≤ amount) (used : Int) (n) :
    (drain amount)^[n + 1] used = max 0 (used - (n + 1) * amount) := by
  induction n generalizing used with
  | zero => simp [drain]
  | succ n ih =>
    rw [Function.iterate_succ_apply, ih, drain]
    have grows : 0 ≤ ((n : Int) + 1) * amount := by positivity
    have split : ((n + 1 : Nat) + 1 : Int) * amount = (n + 1) * amount + amount := by
      push_cast
      ring
    rw [split]
    omega

section Histories

theorem charged_saveSubscription (charged : Charged record sub store) (delta : Int) :
    Charged record (adjust sub delta) (store.saveSubscription (adjust sub delta)) where
  recorded := charged.recorded
  row := by
    have sameId : record.userSubscriptionId = (adjust sub delta).id := (Table.find?_eq_some.mp charged.row).2.symm
    rw [saveSubscription, Table.find?_save, if_pos sameId, charged.row]
    rfl

theorem fits_adjust (fits : Fits record sub) (pos : 0 < record.preConsumed) :
    Fits record (adjust sub (-record.preConsumed)) := by
  intro total
  have bound := fits total
  simp only [adjust] at bound ⊢
  omega

theorem run_refunded {requestId} (refunded : record.status = .refunded)
    (recorded : store.records.find? record.requestId = some record) (sameId : record.requestId = requestId)
    (attempts : List (Faults RefundStatement String)) : run (refundStep requestId) store attempts = store := by
  subst sameId
  induction attempts with
  | nil => rfl
  | cons _ _ ih => rw [run, refundStep_refunded refunded recorded, ih]

theorem attempts_outcome (nonblank : trimSpace record.requestId ≠ "") (consumed : record.status = .consumed)
    (pos : 0 < record.preConsumed) (positiveId : 0 < record.userSubscriptionId)
    (attempts : List (Faults RefundStatement String)) (charged : Charged record sub store) (fits : Fits record sub) :
    let final := run (refundStep record.requestId) store attempts
    final.amountUsed record.userSubscriptionId = (drain record.preConsumed)^[balanceChanges attempts] sub.amountUsed ∧
      ((final.records.find? record.requestId).map (·.status) = some .refunded → 0 < balanceChanges attempts) := by
  induction attempts generalizing store sub with
  | nil =>
    constructor
    · simp [run, balanceChanges, amountUsed, charged.row]
    · simp [run, charged.recorded, consumed]
  | cons faults rest ih =>
    simp only [run, balanceChanges]
    rw [refundStep_eq nonblank charged consumed pos positiveId]
    by_cases balance : succeed balanceStatements faults = true
    · have next := charged_saveSubscription charged (-record.preConsumed)
      rw [if_pos ⟨balance, fits⟩, if_pos balance, markRefunded_store]
      by_cases status : succeed statusStatements faults = true
      · -- The record is marked, so the attempts that follow find nothing to do.
        rw [if_pos status, if_pos status]
        have marked : ((store.saveSubscription (adjust sub (-record.preConsumed))).saveRecord
            { record with status := .refunded }).records.find? record.requestId =
              some { record with status := .refunded } := by
          rw [saveRecord, Table.find?_save, if_pos rfl, next.recorded]
          rfl
        rw [@run_refunded { record with status := .refunded } _ _ rfl marked rfl rest]
        refine ⟨?_, fun _ => Nat.one_pos⟩
        change amountUsed (store.saveSubscription _) _ = _
        rw [amountUsed, next.row]
        rfl
      · rw [if_neg status, if_neg status]
        obtain ⟨used, -⟩ := ih next (fits_adjust fits pos)
        exact ⟨used, fun _ => Nat.succ_pos _⟩
    · rw [if_neg fun both => balance both.1, if_neg balance]
      exact ih charged fits

theorem attempts_rejected (nonblank : trimSpace record.requestId ≠ "") (consumed : record.status = .consumed)
    (pos : 0 < record.preConsumed) (positiveId : 0 < record.userSubscriptionId)
    (charged : Charged record sub store) (exceeds : ¬ Fits record sub)
    (attempts : List (Faults RefundStatement String)) :
    run (refundStep record.requestId) store attempts = store := by
  induction attempts with
  | nil => rfl
  | cons _ _ ih => rw [run, refundStep_eq nonblank charged consumed pos positiveId,
      if_neg fun both => exceeds both.2, ih]

/-- Attempts at a refund settle the recorded amount just if the balance is changed at most once, or
the first change empties the row, or every change is turned away. -/
theorem refundAttempts_once_iff (nonblank : trimSpace record.requestId ≠ "")
    (consumed : record.status = .consumed) (positive : 0 < record.preConsumed)
    (positiveId : 0 < record.userSubscriptionId) (charged : Charged record sub store)
    (attempts : List (Faults RefundStatement String)) :
    RefundedOnce record store (run (refundStep record.requestId) store attempts) ↔
      balanceChanges attempts ≤ 1 ∨ sub.amountUsed ≤ record.preConsumed ∨
        (0 < sub.amountTotal ∧ sub.amountTotal < sub.amountUsed - record.preConsumed) := by
  have used : store.amountUsed record.userSubscriptionId = sub.amountUsed := by rw [amountUsed, charged.row]
  by_cases fits : Fits record sub
  · obtain ⟨final, marked⟩ := attempts_outcome nonblank consumed positive positiveId attempts charged fits
    have noExcess : ¬ (0 < sub.amountTotal ∧ sub.amountTotal < sub.amountUsed - record.preConsumed) := by
      rintro ⟨total, _⟩
      have bound := fits total
      simp only [adjust] at bound
      omega
    simp only [RefundedOnce, used, final, noExcess, or_false]
    cases changes : balanceChanges attempts with
    | zero =>
      rw [changes] at marked
      simp only [Function.iterate_zero, id_eq, sub_self, Nat.zero_le, true_or, iff_true]
      exact ⟨positive.le, fun refunded => absurd (marked refunded) (lt_irrefl 0)⟩
    | succ n =>
      rw [drain_iterate positive.le]
      cases n with
      | zero =>
        simp only [Nat.cast_zero, zero_add, one_mul, le_refl, true_or, iff_true]
        exact ⟨by omega, fun _ => by omega⟩
      | succ n =>
        have twice : 2 * record.preConsumed ≤ ((n + 1 : Nat) + 1 : Int) * record.preConsumed := by
          have many : (2 : Int) ≤ (n + 1 : Nat) + 1 := by omega
          exact mul_le_mul_of_nonneg_right many positive.le
        constructor
        · rintro ⟨_, -⟩
          right
          omega
        · rintro (_ | _)
          · omega
          · exact ⟨by omega, fun _ => by omega⟩
  · have unchanged := attempts_rejected nonblank consumed positive positiveId charged fits attempts
    have excess : 0 < sub.amountTotal ∧ sub.amountTotal < sub.amountUsed - record.preConsumed := by
      simp only [Fits, adjust, Classical.not_imp, not_le] at fits
      omega
    rw [unchanged]
    simp only [RefundedOnce, sub_self, charged.recorded, consumed, Option.map_some, excess, and_self, or_true,
      iff_true, Option.some.injEq, reduceCtorEq, false_implies, and_true]
    exact positive.le

end Histories

def chargedRow : UserSubscription where
  id := 7
  userId := 1
  planId := 1
  amountTotal := 100
  amountUsed := 30
  startTime := 0
  endTime := 1000
  status := .active
  lastResetTime := 0
  nextResetTime := 0
  allowWalletOverflow := true

def chargeRecord : SubscriptionPreConsumeRecord := ⟨"request", 1, 7, 10, .consumed⟩

def chargedStore : SubscriptionStore := ⟨Table.empty, ⟨[chargedRow], by decide⟩, ⟨[chargeRecord], by decide⟩⟩

def commitFails : Faults RefundStatement String := fun label =>
  if label = .commit then some "commit failed" else none

theorem refundAttempts_once_at_charge : RefundedOnce chargeRecord chargedStore
      (run (refundStep chargeRecord.requestId) chargedStore [fun _ => some "offline", fun _ => none]) :=
  have charged : Charged chargeRecord chargedRow chargedStore := ⟨rfl, rfl⟩
  (refundAttempts_once_iff (by decide) rfl (by decide) (by decide) charged _).mpr (.inl (by decide))

theorem refundAttempts_pay_twice : chargedStore.amountUsed 7 = 30 ∧
    (run (refundStep "request") chargedStore [commitFails, fun _ => none]).amountUsed 7 = 10 ∧
    ¬ RefundedOnce chargeRecord chargedStore (run (refundStep "request") chargedStore
      [commitFails, fun _ => none]) := by
  have used : (run (refundStep "request") chargedStore [commitFails, fun _ => none]).amountUsed 7 = 10 := by decide
  refine ⟨rfl, used, fun once => ?_⟩
  have atMost := once.1
  change 30 - (run (refundStep "request") chargedStore [commitFails, fun _ => none]).amountUsed 7 ≤ 10 at atMost
  omega

end NewApi.Proof
