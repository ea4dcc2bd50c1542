import NewApi.Proof.TaskBillings
import NewApi.Service.TaskSubmission

/-! # The ledger of a task -/

namespace NewApi.Proof
open Library Model Service

def SettlementFits (env : BillingEnv) (session : BillingSession) (quota : Int) (faults : Faults SessionStatement String)
    (store : BillingStore) : Prop :=
  quota = session.preConsumedQuota ∨ match session.funding with
  | .wallet _ => env.accounts.batchUpdateEnabled = true ∨ faults (.funding .wallet) = none
  | .subscription funding => 0 < funding.subscriptionId ∧ (∀ label, faults (.funding (.delta label)) = none) ∧
    ∃ sub, store.subscriptions.subscriptions.find? funding.subscriptionId = some sub ∧
      (0 < sub.amountTotal → max 0 (sub.amountUsed + (quota - session.preConsumedQuota)) ≤ sub.amountTotal)

section Submission
variable {env : BillingEnv} {before store : BillingStore} {accounts : SessionAccounts}
    {submission : TaskSubmission} {session : BillingSession} {quota : Int}
  {faults : Faults SessionStatement String}

theorem wallet_accepts_iff {κ : Type} {label : κ} {faults : Faults κ String} {env} {id charge change : Int}
    (nonneg : 0 ≤ charge) : (onAccounts label (changeUserQuota env id charge change false) faults store).1 = .ok () ↔
      env.batchUpdateEnabled = true ∨ faults label = none := by
  rcases ran : onAccounts label (changeUserQuota env id charge change false) faults store with ⟨result, _⟩
  obtain ⟨_, changed, -⟩ := onAccounts_eq.mp ran
  have whole := changed
  unfold changeUserQuota at changed
  rw [if_neg (not_lt.mpr nonneg)] at changed
  cases batched : env.batchUpdateEnabled with
  | true =>
    obtain ⟨rfl, -⟩ := Db.record_eq.mp (by simpa [batched] using changed)
    simp
  | false =>
    simp only [batched, Bool.and_false, Bool.false_eq_true, if_false] at changed
    cases result with
    | ok => simp [(Db.execute_eq_ok.mp changed).1]
    | error =>
      have hit : faults label ≠ none := fun fine => by
        cases whole.symm.trans (changeUserQuota_succeeds nonneg fine)
      simp [hit]

theorem settlement_accepts_iff (differs : quota ≠ session.preConsumedQuota) :
    (session.funding.settle env (quota - session.preConsumedQuota)
      (fun label => faults (.funding label)) store).1 = .ok () ↔
      SettlementFits env session quota faults store := by
  have ne : quota - session.preConsumedQuota ≠ 0 := sub_ne_zero.mpr differs
  unfold SettlementFits
  rw [or_iff_right differs]
  cases session.funding with
  | wallet =>
    simp only [FundingSource.settle, if_neg ne]
    split_ifs
    · exact wallet_accepts_iff (by omega)
    · exact wallet_accepts_iff (by omega)
  | subscription funding =>
    simp only [FundingSource.settle, if_neg ne]
    rcases ran : onSubscriptions .delta (postConsumeUserSubscriptionDelta funding.subscriptionId
      (quota - session.preConsumedQuota))
      (fun label => faults (.funding label)) store with ⟨result, after⟩
    obtain ⟨_, changed, -⟩ := onSubscriptions_eq.mp ran
    rw [ran]
    constructor
    · rintro rfl
      obtain ⟨pos, fine, sub, found, fits, -⟩ := (postConsumeUserSubscriptionDelta_eq_ok ne).mp changed
      exact ⟨pos, fine, sub, found, fits⟩
    · rintro ⟨pos, fine, sub, found, fits⟩
      have succeeded := (postConsumeUserSubscriptionDelta_eq_ok ne).mpr ⟨pos, fine, sub, found, fits, rfl⟩
      exact congrArg Prod.fst (changed.symm.trans succeeded)

theorem fundingDebit_trans (before store after : BillingStore) (account) :
    before.fundingDebit after account = before.fundingDebit store account + store.fundingDebit after account := by
  cases account <;> simp only [BillingStore.fundingDebit] <;> omega

theorem charged_open (phase : OpenPhase before accounts session store) :
    before.fundingDebit store accounts.funding = session.preConsumedQuota :=
      fundingDebit_nonneg phase.debited phase.nonnegative

theorem settled_iff (phase : OpenPhase before accounts session store) (nonneg : 0 ≤ quota) :
    before.fundingDebit (settleAndInsert env submission session quota faults store).store accounts.funding = quota ↔
      SettlementFits env session quota faults store := by
  have source : session.funding.account = accounts.funding := congrArg SessionAccounts.funding phase.sameAccounts
  unfold settleAndInsert BillingSession.settle
  dsimp only
  rw [if_neg (by simp [phase.settled])]
  by_cases exact : quota - session.preConsumedQuota = 0
  · rw [if_pos exact]
    exact iff_of_true ((charged_open phase).trans (by omega)) (.inl (by omega))
  · have differs : quota ≠ session.preConsumedQuota := sub_ne_zero.mp exact
    rw [if_neg exact, ← settlement_accepts_iff differs]
    rcases committed : session.settleFunding env (quota - session.preConsumedQuota) faults store with ⟨_, middle⟩
    have tried := committed
    unfold BillingSession.settleFunding at tried
    rw [if_neg (by simp [phase.fundingSettled])] at tried
    rw [Db.bind_apply, committed]
    rcases settleFunding_cases exact phase.fundingSettled committed with ⟨rfl, moved⟩ | ⟨⟨_, rfl⟩, rfl⟩
    · have debited := debited_moved moved phase.nonnegative (source ▸ phase.debited)
      rw [add_sub_cancel] at debited
      have accepted :
        (session.funding.settle env (quota - session.preConsumedQuota)
        (fun label => faults (.funding label)) store).1 = .ok () := by
        rcases Db.attempt_eq_ok.mp tried with ⟨_, -, ran⟩ | ⟨_, bad, -⟩
        · exact congrArg Prod.fst ran
        · cases bad
      refine iff_of_true ?_ accepted
      rcases adjusted : session.settleToken env (quota - session.preConsumedQuota) faults middle with ⟨_, final⟩
      have charged : Debited before quota final accounts.funding := by
        rcases settleToken_cases adjusted with ⟨-, rfl⟩ | ⟨-, rfl⟩
        · exact source ▸ debited_chargeToken debited
        · exact source ▸ debited
      dsimp only
      rw [Db.bind_apply, adjusted]
      rcases settleToken_cases adjusted with ⟨rfl, -⟩ | ⟨⟨_, rfl⟩, -⟩ <;> exact fundingDebit_nonneg charged nonneg
    · refine iff_of_false (fun charged => differs ?_) fun accepted => ?_
      · exact charged.symm.trans (charged_open phase)
      · rcases Db.attempt_eq_ok.mp tried with ⟨_, bad, -⟩ | ⟨_, -, ran⟩
        · cases bad
        · rw [Db.within_apply] at ran
          rw [ran] at accepted
          cases accepted

end Submission

structure TaskBalanced (before : BillingStore) (account : FundingAccount) (ledger : TaskLedger) : Prop where
  same : taskAccount ledger.task = account
  nonnegative : 0 ≤ ledger.task.quota
  charged : before.fundingDebit ledger.store account = if ledger.refunded then 0 else ledger.task.quota

section Run
variable {env : TaskBillingEnv} {before : BillingStore} {account : FundingAccount} {ledger : TaskLedger}

theorem netDebit_owed (used : ∀ id, account = .subscription id → 0 ≤ before.subscriptions.amountUsed id) {store delta}
    (owed : -delta ≤ before.fundingDebit store account) : netDebit store delta account = delta := by
  cases account with
  | user => rfl
  | subscription id =>
    have start := used id rfl
    simp only [BillingStore.fundingDebit] at owed
    exact max_eq_left (by omega)

theorem taskBalanced_step (used : ∀ id, account = .subscription id →
    0 ≤ before.subscriptions.amountUsed id) (balanced : TaskBalanced before account ledger)
    (due : ledger.refunded = false) (call : TaskCall × Faults TaskBillingStatement String) :
    TaskBalanced before account (ledger.step env call) := by
  obtain ⟨rfl, nonneg, charged⟩ := balanced
  simp only [due, Bool.false_eq_true, if_false] at charged
  have moved {delta : Int} {after : BillingStore} (owed : -delta ≤ ledger.task.quota)
      (debit : ledger.store.fundingDebit after (taskAccount ledger.task) =
        netDebit ledger.store delta (taskAccount ledger.task)) :
      before.fundingDebit after (taskAccount ledger.task) = ledger.task.quota + delta := by
    rw [fundingDebit_trans before ledger.store, debit, netDebit_owed used (charged ▸ owed), charged]
  obtain ⟨call, faults⟩ := call
  unfold TaskLedger.step
  cases call with
  | recalculate actualQuota =>
    dsimp only
    rcases ran : recalculateTaskQuota env ledger.task actualQuota faults ledger.store with ⟨_, after⟩
    have kept : after = ledger.store → TaskBalanced before (taskAccount ledger.task)
      { ledger with store := after } := by
      rintro rfl
      exact ⟨rfl, nonneg, by simpa only [due, Bool.false_eq_true, if_false] using charged⟩
    unfold recalculateTaskQuota at ran
    dsimp only at ran
    split_ifs at ran with low same
    · obtain ⟨rfl, rfl⟩ := Db.pure_eq.mp ran
      exact kept rfl
    · obtain ⟨rfl, rfl⟩ := Db.pure_eq.mp ran
      exact kept rfl
    · rcases adjusted : adjustTask env ledger.task (actualQuota - ledger.task.quota) faults ledger.store with ⟨_, _⟩
      rw [Db.bind_apply, adjusted] at ran
      rcases adjustTask_cases same adjusted with ⟨rfl, debit⟩ | ⟨rfl, rfl⟩
      · obtain ⟨rfl, rfl⟩ := Db.pure_eq.mp ran
        refine ⟨rfl, by show 0 ≤ actualQuota; omega, ?_⟩
        have total := moved (by omega) debit
        rw [add_sub_cancel] at total
        show _ = if ledger.refunded = true then 0 else actualQuota
        rw [due]
        exact total
      · obtain ⟨rfl, rfl⟩ := Db.pure_eq.mp ran
        exact kept rfl
  | refund =>
    dsimp only
    rcases ran : refundTaskQuota env ledger.task faults ledger.store with ⟨_, _⟩
    rcases refundTaskQuota_cases ran with ⟨rfl, -, debit⟩ | ⟨rfl, rfl⟩
    · refine ⟨rfl, nonneg, ?_⟩
      have total := moved (by omega) debit
      simpa using total
    · exact ⟨rfl, nonneg, by simpa only [due, Bool.false_eq_true, if_false] using charged⟩

end Run

theorem task_ledger_balanced (env : BillingEnv) (tasks : TaskBillingEnv)
    (before store : BillingStore) (accounts : SessionAccounts)
    (submission : TaskSubmission) (session : BillingSession) (quota : Int)
    (faults : Faults SessionStatement String) (phase : OpenPhase before accounts session store)
    (own : taskAccount (insertedTask submission session quota) = accounts.funding) (nonnegative : 0 ≤ quota) :
    (before.fundingDebit (settleAndInsert env submission session quota faults store).store accounts.funding = quota ↔
      SettlementFits env session quota faults store) ∧ (SettlementFits env session quota faults store → ∀ history,
      Along (TaskLedger.step tasks) (fun ledger _ => ledger.refunded = false)
        (settleAndInsert env submission session quota faults store) history →
      TaskBalanced before accounts.funding (run (TaskLedger.step tasks)
        (settleAndInsert env submission session quota faults store) history)) := by
  refine ⟨settled_iff phase nonnegative, fun fits _ along => ?_⟩
  have used (id : Int) (subscription : accounts.funding = .subscription id) :
    0 ≤ before.subscriptions.amountUsed id := by
    have debited := phase.debited
    rw [subscription] at debited
    obtain ⟨_, -, found, nonnegative, -⟩ := debited
    simpa only [SubscriptionStore.amountUsed, found] using nonnegative
  have initially : TaskBalanced before accounts.funding (settleAndInsert env submission session quota faults store) :=
    ⟨own, nonnegative, (settled_iff phase nonnegative).mpr fits⟩
  exact run_invariant (fun _ call balanced due => taskBalanced_step used balanced due call) initially along

def subscribedSession : BillingSession where
  relayInfo := { walletRequest with billingSource := some .subscription, subscriptionId := 7 }
  funding := .subscription { requestId := "request", userId := 1, amount := 10, subscriptionId := 7, preConsumed := 10 }
  preConsumedQuota := 10
  tokenConsumed := 10

def subscribedStore (used : Int) : BillingStore where
  accounts := walletStore.accounts
  subscriptions :=
    ⟨Table.empty,
    ⟨[⟨7, 1, 1, 100, used, 0, 1000, .active, 0, 0, false, .order, "", "", ""⟩], by simp⟩, Table.empty⟩

def soraSubmission : TaskSubmission where
  id := 1
  taskID := "task"
  platform := .video "sora"
  channelId := 1

def plainTasks : TaskBillingEnv := ⟨plainEnv.accounts, fun _ => "key", fun _ _ => none⟩

def walletSession : BillingSession where
  relayInfo := { walletRequest with billingSource := some .wallet }
  funding := .wallet ⟨1, 10⟩
  preConsumedQuota := 10
  tokenConsumed := 10

def walletCharged : BillingStore :=
  chargeToken plainEnv walletRequest 10 ⟨walletStore.accounts.changeUser false 1 (-10), walletStore.subscriptions⟩

theorem task_ledger_balanced_wallet : TaskBalanced walletStore (.user 1) (run (TaskLedger.step plainTasks)
    (settleAndInsert plainEnv soraSubmission walletSession 10 (fun _ => none) walletCharged)
      [(.recalculate 15, fun _ => none), (.refund, fun _ => none)]) := by
  have debited : walletCharged.accounts.userBalance 1 = walletStore.accounts.userBalance 1 - 10 := by decide +kernel
  have phase : OpenPhase walletStore walletSession.accounts walletSession walletCharged :=
    ⟨rfl, by decide, rfl, rfl, rfl, rfl, by decide +kernel, debited, rfl⟩
  exact (task_ledger_balanced plainEnv plainTasks walletStore walletCharged walletSession.accounts
    soraSubmission walletSession 10 (fun _ => none) phase
    (by decide) (by decide)).2 (.inl rfl) _ (by decide +kernel)

theorem refund_exceeds_charge : let submitted := settleAndInsert plainEnv soraSubmission subscribedSession 20 (fun _ => none) (subscribedStore 95)
    (subscribedStore 85).fundingDebit submitted.store (.subscription 7) = 10 ∧ submitted.task.quota = 20 ∧
      (subscribedStore 85).fundingDebit (submitted.step plainTasks (.refund, fun _ => none)).store (.subscription 7) = -10 := by
  decide +kernel

end NewApi.Proof
