import NewApi.Proof.PollingInvariant
import NewApi.Proof.SessionLedger

/-! # Billing calls, made and due -/

namespace NewApi.Proof
open Library Model Service PollState

section Refunds
variable {env : TaskBillingEnv} {task : Task} {delta : Int} {store after : BillingStore}

theorem taskAdjustFunding_cases {faults result}
    (ne : delta ≠ 0) (ran : taskAdjustFunding env task delta faults store = (result, after)) :
    (result = .ok () ∧ store.fundingDebit after (taskAccount task) = netDebit store delta (taskAccount task)) ∨
      Undone result store after := by
  have wallet {quota change : Int} (paidFor : change = -delta)
      (ran : onAccounts .wallet (changeUserQuota env.accounts task.userId quota change false) faults
        store = (result, after)) :
      (result = .ok () ∧ store.fundingDebit after (.user task.userId) = delta) ∨ Undone result store after := by
    obtain ⟨_, changed, rfl⟩ := onAccounts_eq.mp ran
    rcases changeUserQuota_cases changed with ⟨rfl, -, rfl⟩ | ⟨failed, rfl⟩
    · refine .inl ⟨rfl, ?_⟩
      rw [BillingStore.fundingDebit, userBalance_changeUser, if_pos rfl, paidFor]
      omega
    · exact .inr ⟨failed, rfl⟩
  unfold taskAdjustFunding at ran
  unfold taskAccount
  split_ifs at ran ⊢ with subscription charges
  · obtain ⟨_, changed, rfl⟩ := onSubscriptions_eq.mp ran
    rcases postConsumeUserSubscriptionDelta_cases ne changed with ⟨rfl, -, -, sub, found, -, rfl⟩ | ⟨failed, rfl⟩
    · have used : (adjust sub delta).amountUsed = max 0 (sub.amountUsed + delta) := rfl
      refine .inl ⟨rfl, ?_⟩
      simp only [BillingStore.fundingDebit, netDebit, SubscriptionStore.amountUsed, found,
        saveSubscription_row found delta]
      omega
    · exact .inr ⟨failed, rfl⟩
  · exact wallet rfl ran
  · exact wallet (by omega) ran

variable {faults : Faults TaskBillingStatement String}

theorem tokenChange_fundingDebit {tokenId quota change result} (before : BillingStore)
    (ran : Db.attempt (onAccounts .token (changeTokenQuota env.accounts tokenId quota change))
    faults store = (result, after)) :
    (∃ answer, result = .ok answer) ∧ ∀ account, before.fundingDebit after account =
      before.fundingDebit store account := by
  have same (result : Except (Halt String) Unit) (after : BillingStore)
      (ran : onAccounts .token (changeTokenQuota env.accounts tokenId quota change) faults store = (result, after)) :
      (∃ a, result = .ok a ∧ ∀ account, before.fundingDebit after account = before.fundingDebit store account) ∨
        Undone result store after := by
    obtain ⟨_, changed, rfl⟩ := onAccounts_eq.mp ran
    rcases changeTokenQuota_cases changed with ⟨rfl, -, rfl⟩ | ⟨failed, rfl⟩
    · refine .inl ⟨(), rfl, fun account => ?_⟩
      cases account with
      | user => simp [BillingStore.fundingDebit]
      | subscription => rfl
    · exact .inr ⟨failed, rfl⟩
  rcases Db.attempt_cases _ same ran with ⟨_, rfl, kept⟩ | ⟨⟨_, rfl⟩, rfl⟩
  · exact ⟨⟨_, rfl⟩, kept⟩
  · exact ⟨⟨_, rfl⟩, fun _ => rfl⟩

theorem taskAdjustTokenQuota_cases {result} (before : BillingStore)
    (ran : taskAdjustTokenQuota env task delta faults store = (result, after)) :
    result = .ok () ∧ ∀ account, before.fundingDebit after account = before.fundingDebit store account := by
  unfold taskAdjustTokenQuota at ran
  split_ifs at ran with unbilled gone charges
  · obtain ⟨rfl, rfl⟩ := Db.pure_eq.mp ran
    exact ⟨rfl, fun _ => rfl⟩
  · obtain ⟨rfl, rfl⟩ := Db.pure_eq.mp ran
    exact ⟨rfl, fun _ => rfl⟩
  all_goals
    rw [Db.bind_apply] at ran
    split at ran
    · rename_i answer middle tried
      obtain ⟨rfl, rfl⟩ := Db.pure_eq.mp ran
      exact ⟨rfl, (tokenChange_fundingDebit before tried).2⟩
    · rename_i halt middle tried
      obtain ⟨_, bad⟩ := (tokenChange_fundingDebit before tried).1
      cases bad

theorem adjustTask_cases {faults result} (ne : delta ≠ 0)
    (ran : adjustTask env task delta faults store = (result, after)) :
    (result = .ok true ∧ store.fundingDebit after (taskAccount task) = netDebit store delta (taskAccount task)) ∨
      (result = .ok false ∧ after = store) := by
  unfold adjustTask at ran
  rcases tried : Db.attempt ((taskAdjustFunding env task delta).within .funding) faults store with ⟨_, middle⟩
  rw [Db.bind_apply, tried] at ran
  have cases (result : Except (Halt String) Unit) (after : BillingStore)
      (ran : ((taskAdjustFunding env task delta).within .funding) faults store = (result, after)) :
      (∃ a, result = .ok a ∧ store.fundingDebit after (taskAccount task) = netDebit store delta (taskAccount task)) ∨
        Undone result store after :=
    (taskAdjustFunding_cases ne ran).imp_left fun ⟨ok, debit⟩ => ⟨(), ok, debit⟩
  rcases Db.attempt_cases _ cases tried with ⟨_, rfl, debit⟩ | ⟨⟨_, rfl⟩, rfl⟩
  · rcases charged : taskAdjustTokenQuota env task delta faults middle with ⟨_, _⟩
    obtain ⟨rfl, kept⟩ := taskAdjustTokenQuota_cases store charged
    simp only [Db.bind_apply, charged] at ran
    obtain ⟨rfl, rfl⟩ := Db.pure_eq.mp ran
    exact .inl ⟨rfl, (kept _).trans debit⟩
  · obtain ⟨rfl, rfl⟩ := Db.pure_eq.mp ran
    exact .inr ⟨rfl, rfl⟩

theorem refundTaskQuota_cases {faults result} (ran : refundTaskQuota env task faults store = (result, after)) :
    (result = .ok true ∧ task.quota ≠ 0 ∧ store.fundingDebit after (taskAccount task) =
      netDebit store (-task.quota) (taskAccount task)) ∨
      (result = .ok false ∧ after = store) := by
  unfold refundTaskQuota at ran
  split_ifs at ran with free
  · obtain ⟨rfl, rfl⟩ := Db.pure_eq.mp ran
    exact .inr ⟨rfl, rfl⟩
  · exact (adjustTask_cases (neg_ne_zero.mpr free) ran).imp_left fun ⟨ok, debit⟩ => ⟨ok, free, debit⟩

end Refunds

def RefundMoved (billed : Billed) (before after : BillingStore) : Prop :=
  billed.kind = .refund → billed.paid = true →
    before.fundingDebit after billed.account = netDebit before (-billed.quota) billed.account

section Log
variable {env : TaskPollingEnv} {state after : PollState} {event : PollEvent} {billed : Billed}

theorem refundTask_moved {task faults} (mem : billed ∈ (state.refundTask env task faults).log) :
    billed ∈ state.log ∨ RefundMoved billed state.billing (state.refundTask env task faults).billing := by
  rcases List.mem_cons.mp mem with rfl | old
  · refine .inr fun _ paid => ?_
    rcases ran : refundTaskQuota env.billing task faults state.billing with ⟨_, _⟩
    simp only [refundTask, ran] at paid ⊢
    rcases refundTaskQuota_cases ran with ⟨rfl, -, debit⟩ | ⟨rfl, rfl⟩
    · exact debit
    · cases paid
  · exact .inl old

theorem log_effect (effect : Effect env state event after) (mem : billed ∈ after.log) :
    billed ∈ state.log ∨ RefundMoved billed state.billing after.billing := by
  cases effect with
  | @readSuno _ _ _ _ _ _ _ _ _ _ _ _ _ _ _ _
    _ =>
    rw [leave_log] at mem
    split_ifs at mem ⊢
    · exact refundTask_moved mem
    · exact .inl mem
  | refund => exact refundTask_moved mem
  | @settle caller adjusted fault faults _ task totalTokens =>
    rcases settleTask_cases env (state.hangUp caller) caller.node task adjusted totalTokens fault faults with
      ⟨billing, paid, same | ⟨actualQuota, same⟩⟩
    all_goals
      rw [same] at mem ⊢
      rcases List.mem_cons.mp mem with rfl | old
      · exact .inr fun bad => nomatch bad
      · exact .inl old
  | sweepTask | pollVideo =>
    rw [leave_log] at mem
    exact .inl mem
  | _ => exact .inl mem

theorem log_step (mem : billed ∈ (state.step env event).log) :
    billed ∈ state.log ∨ RefundMoved billed state.billing (state.step env event).billing := by
  unfold step at mem ⊢
  cases attempted : state.attempt env event with
  | none =>
    rw [attempted] at mem
    exact .inl mem
  | some =>
    rw [attempted] at mem
    exact log_effect (attempt_effect attempted) mem

theorem paidRefund_moved {tasks billing history}
    (mem : billed ∈ (run (step env) (.start tasks billing) history).log) (refund : billed.kind = .refund)
    (paid : billed.paid = true) :
    ∃ first event second, history = first ++ event :: second ∧
      (let before := run (step env) (.start tasks billing) first
       before.billing.fundingDebit (before.step env event).billing billed.account =
         netDebit before.billing (-billed.quota) billed.account) := by
  obtain ⟨first, event, second, split, absent, present⟩ :=
    run_origin (fun state : PollState => billed ∈ state.log) List.not_mem_nil mem
  exact ⟨first, event, second, split, (log_step present).resolve_left absent refund paid⟩

end Log

def OnPlatform (kind : TaskPlatform → Prop) (tasks : TaskTable) (id : Int) : Prop :=
  ∀ row, tasks.find? id = some row → kind row.platform

instance (kind : TaskPlatform → Prop) [DecidablePred kind] (tasks : TaskTable) (id : Int) :
    Decidable (OnPlatform kind tasks id) :=
  decidable_of_iff ((tasks.find? id).all fun row => decide (kind row.platform))
    (by simp [OnPlatform, Option.all_eq_true])

def bills : Operation → Bool
  | .bill _ => true
  | .save _ => false

def billings (state : PollState) (id : Int) : Nat :=
  state.calls.countP (fun call => decide (call.taskId = id) && bills call.operation) +
    state.log.countP (fun billed => decide (billed.taskId = id))

section Billings
variable {env : TaskPollingEnv} {state : PollState} {caller : Caller} {call : Call} {task : Task}

theorem onPlatform_kept {kind tasks rows id} (keeps : Keeps tasks rows)
    (here : OnPlatform kind rows id) : OnPlatform kind tasks id := by
  intro row found
  obtain ⟨row', found', same⟩ := keeps id row found
  exact same ▸ here row' found'

theorem platform_of_copy {kind node id} (known : Known state)
    (found : (state.passes node).memory.find? id = some task) (here : OnPlatform kind state.tasks task.id) :
    kind task.platform := by
  obtain ⟨row, stored, same⟩ := known.copies node task (Table.find?_eq_some.mp found).1
  exact same ▸ here row stored

theorem billings_leave (caller) (id other : Int) (operation) :
    billings (state.leave caller id operation) other = billings state other +
      if operation.any bills ∧ other = id then 1 else 0 := by
  cases operation with
  | none => simp [PollState.leave]
  | some =>
    simp only [PollState.leave, billings, List.countP_cons, Option.any_some, Bool.and_eq_true, decide_eq_true_eq]
    by_cases same : id = other
    · simp only [same, true_and, and_true]
      omega
    · simp only [same, Ne.symm same, false_and, and_false, if_false, Nat.add_zero]

theorem billings_refundTask (env state task faults) (id : Int) :
    billings (state.refundTask env task faults) id = billings state id + if task.id = id then 1 else 0 := by
  simp [billings, refundTask, List.countP_cons, Nat.add_assoc]

theorem billings_hangUp (placed : state.calls.find? (fun call => decide (call.caller = caller)) =
    some call) (id : Int) :
    billings (state.hangUp caller) id + (if call.taskId = id ∧ bills call.operation then 1 else 0) ≤
      billings state id := by
  obtain ⟨mem, same⟩ := placed_mem placed
  have split := List.countP_eq_countP_filter_add state.calls
    (fun call => decide (call.taskId = id) && bills call.operation) (fun call => decide (call.caller ≠ caller))
  have removed : (if call.taskId = id ∧ bills call.operation then 1 else 0) ≤ (state.calls.filter fun call =>
      !decide (call.caller ≠ caller)).countP fun call => decide (call.taskId = id) && bills call.operation := by
    split_ifs with here
    · exact List.countP_pos_iff.mpr ⟨call, List.mem_filter.mpr ⟨mem, by simp [same]⟩, by simp [here]⟩
    · exact Nat.zero_le _
  unfold billings hangUp
  dsimp only
  omega

theorem billings_logged {after kind account quota paid}
    (placed : state.calls.find? (fun call => decide (call.caller = caller)) = some call)
    (billing : bills call.operation = true) (sameId : task.id = call.taskId)
    (calls : after.calls = (state.hangUp caller).calls)
    (log : after.log = ⟨task.id, kind, account, quota, paid⟩ :: state.log) (id : Int) :
    billings after id ≤ billings state id := by
  have moved := billings_hangUp placed id
  rw [billings, calls, log]
  simp only [billing, and_true, ← sameId] at moved
  simpa [billings, hangUp, List.countP_cons, Nat.add_assoc] using moved

theorem mem_hangUp {other} (known : Known state)
    (placed : state.calls.find? (fun call => decide (call.caller = caller)) = some call) (mem : other ∈ state.calls)
    (ne : other ≠ call) : other ∈ (state.hangUp caller).calls := by
  obtain ⟨member', same⟩ := placed_mem placed
  refine List.mem_filter.mpr ⟨mem, decide_eq_true fun sameCaller => ne ?_⟩
  exact List.inj_on_of_nodup_map known.callers mem member' (sameCaller.trans same.symm)

end Billings
end NewApi.Proof
