import NewApi.Proof.OpenSession
import NewApi.Proof.SubscriptionRefund

/-! # The ledger of a billing session -/

namespace NewApi.Proof
open Library Common Model Service BillingSession BillingStore SubscriptionStore SessionState Db
variable {env : BillingEnv} {store after before : BillingStore} {delta : Int} {source : FundingSource}
    {accounts : SessionAccounts} {s : BillingSession} {faults : Faults SessionStatement String}

/-! ## Moves of the funding source -/

def FundingMoved (env : BillingEnv) (delta : Int) (store after : BillingStore) : FundingSource → Prop
  | .wallet funding => after = ⟨store.accounts.changeUser env.accounts.batchUpdateEnabled funding.userId (-delta),
      store.subscriptions⟩
  | .subscription funding => 0 < funding.subscriptionId ∧ after.accounts = store.accounts ∧
      Adjusted funding.subscriptionId delta store.subscriptions after.subscriptions

section Moves

variable {κ : Type} {result : Except (Halt String) Unit}

theorem walletDelta_cases {label : κ} {faults} {userId : Int} {quota change : Int} {result}
    (ran : onAccounts label (changeUserQuota env.accounts userId quota change false) faults store = (result, after)) :
    (result = .ok () ∧ after = ⟨store.accounts.changeUser env.accounts.batchUpdateEnabled userId
      change, store.subscriptions⟩) ∨
      Undone result store after := by
  obtain ⟨_, changed, rfl⟩ := onAccounts_eq.mp ran
  rcases changeUserQuota_cases changed with ⟨rfl, -, rfl⟩ | ⟨failed, rfl⟩
  · exact .inl ⟨rfl, rfl⟩
  · exact .inr ⟨failed, rfl⟩

theorem subscriptionDelta_cases {scope : DeltaStatement → κ} {faults : Faults κ String} {funding} (ne : delta ≠ 0)
    (ran : onSubscriptions scope (postConsumeUserSubscriptionDelta funding.subscriptionId delta)
    faults store = (result, after)) :
    (result = .ok () ∧ FundingMoved env delta store after (.subscription funding)) ∨ Undone result store after := by
  obtain ⟨_, changed, rfl⟩ := onSubscriptions_eq.mp ran
  rcases postConsumeUserSubscriptionDelta_cases ne changed with ⟨rfl, pos, -, adjusted⟩ | ⟨failed, rfl⟩
  · exact .inl ⟨rfl, pos, rfl, adjusted⟩
  · exact .inr ⟨failed, rfl⟩

theorem fundingSettle_cases {faults} (ne : delta ≠ 0) (ran : source.settle env delta faults store = (result, after)) :
    (result = .ok () ∧ FundingMoved env delta store after source) ∨ Undone result store after := by
  cases source with
  | wallet =>
    simp only [FundingSource.settle, if_neg ne] at ran
    split_ifs at ran
    · exact walletDelta_cases ran
    · exact walletDelta_cases ran
  | subscription =>
    simp only [FundingSource.settle, if_neg ne] at ran
    exact subscriptionDelta_cases ne ran

end Moves

/-! ## Debited amounts -/

def Debited (before : BillingStore) (amount : Int) (store : BillingStore) : FundingAccount → Prop
  | .user id => store.accounts.userBalance id = before.accounts.userBalance id - amount
  | .subscription id => ∃ base row, before.subscriptions.subscriptions.find? id = some base ∧
      0 ≤ base.amountUsed ∧ store.subscriptions.subscriptions.find? id = some row ∧
      row.amountUsed = max 0 (base.amountUsed + amount) ∧ (0 < row.amountTotal → row.amountUsed ≤ row.amountTotal)

def netDebit (before : BillingStore) (amount : Int) : FundingAccount → Int
  | .user _ => amount
  | .subscription id => max amount (-before.subscriptions.amountUsed id)

section Debits
variable {amount : Int} {account : FundingAccount}

theorem fundingDebit_eq (debited : Debited before amount store account) :
    before.fundingDebit store account = netDebit before amount account := by
  cases account with
  | user =>
    simp only [Debited] at debited
    simp only [fundingDebit, netDebit, debited]
    omega
  | subscription =>
    obtain ⟨_, _, found, -, stored, used, -⟩ := debited
    simp only [fundingDebit, netDebit, amountUsed, found, stored, used]
    omega

theorem fundingDebit_nonneg (debited : Debited before amount store account) (nonneg : 0 ≤ amount) :
    before.fundingDebit store account = amount := by
  rw [fundingDebit_eq debited]
  cases account with
  | user => rfl
  | subscription =>
    obtain ⟨_, -, found, _, -⟩ := debited
    simp only [netDebit, amountUsed, found]
    omega

theorem saveSubscription_row {subscriptions : SubscriptionStore} {id : Int} {row : UserSubscription}
    (stored : subscriptions.subscriptions.find? id = some row) (change : Int) :
    (subscriptions.saveSubscription (adjust row change)).subscriptions.find? id = some (adjust row change) := by
  have same : id = (adjust row change).id := (Table.find?_eq_some.mp stored).2.symm
  rw [saveSubscription, Table.find?_save, if_pos same, stored]
  rfl

section Moved
variable (moved : FundingMoved env delta store after source)
include moved

theorem debited_moved (nonneg : 0 ≤ amount)
    (debited : Debited before amount store source.account) : Debited before (amount + delta) after source.account := by
  cases source with
  | wallet =>
    simp only [FundingMoved] at moved
    simp only [Debited, FundingSource.account] at debited ⊢
    rw [moved, userBalance_changeUser, if_pos rfl, debited]
    omega
  | subscription =>
    obtain ⟨base, row, found, baseUsed, stored, used, -⟩ := debited
    obtain ⟨-, -, current, stored', fits, saved⟩ := moved
    obtain rfl : row = current := Option.mem_unique stored stored'
    refine ⟨base, adjust row delta, found, baseUsed, ?_, ?_, fits⟩
    · rw [saved]
      exact saveSubscription_row stored delta
    · simp only [adjust, used]
      omega

theorem moved_token (tokenId : Int) : after.accounts.tokenBalance tokenId = store.accounts.tokenBalance tokenId := by
  cases source with
  | wallet =>
    simp only [FundingMoved] at moved
    rw [moved, tokenBalance_changeUser]
  | subscription => rw [moved.2.1]

theorem moved_records : after.subscriptions.records = store.subscriptions.records := by
  cases source with
  | wallet =>
    simp only [FundingMoved] at moved
    rw [moved]
  | subscription =>
    obtain ⟨-, -, _, -, -, saved⟩ := moved
    rw [saved]
    rfl

end Moved

end Debits

/-! ## An open session -/

structure RecordOf (funding : SubscriptionFunding) (record : SubscriptionPreConsumeRecord) : Prop where
  requestId : record.requestId = funding.requestId
  userSubscriptionId : record.userSubscriptionId = funding.subscriptionId
  preConsumed : record.preConsumed = funding.preConsumed
  status : record.status = .consumed

structure SubscriptionFilled (extraReserved amount subscriptionId : Int) (store : SubscriptionStore)
    (funding : SubscriptionFunding) : Prop where
  nonblank : trimSpace funding.requestId ≠ ""
  sameId : subscriptionId = funding.subscriptionId
  positiveId : 0 < funding.subscriptionId
  preConsumed : 0 < funding.preConsumed
  extra : 0 ≤ extraReserved
  total : funding.preConsumed + extraReserved = amount
  record : ∃ record, store.records.find? funding.requestId = some record ∧ RecordOf funding record

def Filled (extraReserved amount subscriptionId : Int) (store : BillingStore) : FundingSource → Prop
  | .wallet funding => funding.consumed = amount
  | .subscription funding => SubscriptionFilled extraReserved amount subscriptionId store.subscriptions funding

structure OpenPhase (before : BillingStore) (accounts : SessionAccounts) (s : BillingSession)
    (store : BillingStore) : Prop where
  sameAccounts : s.accounts = accounts
  nonnegative : 0 ≤ s.preConsumedQuota
  tokenConsumed : s.tokenConsumed = s.preConsumedQuota
  fundingSettled : s.fundingSettled = false
  settled : s.settled = false
  refunded : s.refunded = false
  token : before.tokenDebit store accounts.tokenId = accounts.tokenShare s.preConsumedQuota
  debited : Debited before s.preConsumedQuota store accounts.funding
  filled : Filled s.extraReserved s.preConsumedQuota s.relayInfo.subscriptionId store s.funding

section Settle

theorem settleFunding_cases {result} (ne : delta ≠ 0)
    (pending : s.fundingSettled = false) (ran : s.settleFunding env delta faults store = (result, after)) :
    (result = .ok (.ok ()) ∧ FundingMoved env delta store after s.funding) ∨
      ((∃ reason, result = .ok (.error reason)) ∧ after = store) := by
  unfold settleFunding at ran
  rw [if_neg (by simp [pending])] at ran
  have body (result : Except (Halt String) Unit) (after : BillingStore)
      (ran : (s.funding.settle env delta).within .funding faults store = (result, after)) :
      (∃ a, result = .ok a ∧ FundingMoved env delta store after s.funding) ∨ Undone result store after :=
    (fundingSettle_cases ne ran).imp (fun ok => ⟨(), ok⟩) id
  exact (attempt_cases _ body ran).imp (fun ⟨_, ok⟩ => ok) id

theorem onToken_cases {κ : Type} {label : κ} {faults} {quota change : Int} {result}
    (charged : s.relayInfo.isPlayground = false)
    (ran : onAccounts label (changeTokenQuota env.accounts s.relayInfo.tokenId quota (-change))
    faults store = (result, after)) :
    (∃ a, result = .ok a ∧ after = chargeToken env s.relayInfo change store) ∨ Undone result store after := by
  obtain ⟨_, body, rfl⟩ := onAccounts_eq.mp ran
  rcases changeTokenQuota_cases body with ⟨rfl, -, rfl⟩ | ⟨failed, rfl⟩
  · exact .inl ⟨(), rfl, by rw [chargeToken, if_neg (by simp [charged])]⟩
  · exact .inr ⟨failed, rfl⟩

theorem settleToken_cases {result} (ran : s.settleToken env delta faults store = (result, after)) :
    (result = .ok (.ok ()) ∧ after = chargeToken env s.relayInfo delta store) ∨
      ((∃ reason, result = .ok (.error reason)) ∧ after = store) := by
  unfold settleToken at ran
  split_ifs at ran with playground
  · obtain ⟨rfl, rfl⟩ := pure_eq.mp ran
    exact .inl ⟨rfl, by rw [chargeToken, if_pos playground]⟩
  all_goals
    have charged : s.relayInfo.isPlayground = false := by simpa using playground
    rcases attempt_cases _ (fun _ _ => onToken_cases charged) ran with ⟨_, ok⟩ | failed
    · exact .inl ok
    · exact .inr failed

theorem tokenShare_add (accounts : SessionAccounts) (a b : Int) :
    accounts.tokenShare (a + b) = accounts.tokenShare a + accounts.tokenShare b := by
  unfold SessionAccounts.tokenShare
  split_ifs <;> omega

theorem tokenShare_accounts (s : BillingSession) (amount : Int) :
    tokenShare s.relayInfo s.accounts.tokenId amount = s.accounts.tokenShare amount := by
  change (if s.relayInfo.tokenId = s.relayInfo.tokenId ∧ s.relayInfo.isPlayground = false then amount else 0) =
    if s.relayInfo.isPlayground = true then 0 else amount
  cases s.relayInfo.isPlayground <;> simp

theorem tokenDebit_charge {amount} (env : BillingEnv) (delta : Int) (sameAccounts : s.accounts = accounts)
    (token : before.tokenDebit store accounts.tokenId = accounts.tokenShare amount) :
    before.tokenDebit (chargeToken env s.relayInfo delta store) accounts.tokenId =
      accounts.tokenShare (amount + delta) := by
  subst sameAccounts
  rw [tokenShare_add, ← token, tokenDebit, tokenDebit, chargeToken_tokenBalance, tokenShare_accounts]
  omega

theorem tokenDebit_congr (same : ∀ id, after.accounts.tokenBalance id = store.accounts.tokenBalance id) (id : Int) :
    before.tokenDebit after id = before.tokenDebit store id := by
  rw [tokenDebit, tokenDebit, same]

theorem debited_chargeToken {relayInfo amount charge account} (debited : Debited before amount store account) :
    Debited before amount (chargeToken env relayInfo charge store) account := by
  cases account with
  | user => simpa only [Debited, chargeToken_userBalance] using debited
  | subscription => simpa only [Debited, chargeToken_subscriptions] using debited

theorem settle_cases {actualQuota result} (ran : s.settle env actualQuota faults store = (result, after)) :
    (s.settled = true ∧ result = .ok (.ok (), s) ∧ after = store) ∨
      (s.settled = false ∧ actualQuota = s.preConsumedQuota ∧
        result = .ok (.ok (), { s with settled := true }) ∧ after = store) ∨
      (∃ reason, result = .ok (.error reason, s) ∧ after = store) ∨
      ∃ middle answer s', s.settled = false ∧ actualQuota ≠ s.preConsumedQuota ∧
        (s.fundingSettled = false → FundingMoved env (actualQuota - s.preConsumedQuota) store middle s.funding) ∧
        ((answer = .ok () ∧ after = chargeToken env s.relayInfo (actualQuota - s.preConsumedQuota) middle) ∨
          ((∃ reason, answer = .error reason) ∧ after = middle)) ∧
        result = .ok (answer, s') ∧ s'.settled = true ∧ s'.refunded = s.refunded := by
  unfold settle at ran
  split_ifs at ran with settled same
  · obtain ⟨rfl, rfl⟩ := pure_eq.mp ran
    exact .inl ⟨settled, rfl, rfl⟩
  · obtain ⟨rfl, rfl⟩ := pure_eq.mp ran
    exact .inr (.inl ⟨by simpa using settled, by omega, rfl, rfl⟩)
  · have unsettled : s.settled = false := by simpa using settled
    rcases committed : s.settleFunding env (actualQuota - s.preConsumedQuota) faults store with ⟨outcome, middle⟩
    rw [bind_apply, committed] at ran
    have funding : (outcome = .ok (.ok ()) ∧
          (s.fundingSettled = false → FundingMoved env (actualQuota - s.preConsumedQuota) store middle s.funding)) ∨
        ((∃ reason, outcome = .ok (.error reason)) ∧ middle = store) := by
      cases pending : s.fundingSettled with
      | true =>
        rw [settleFunding, if_pos pending] at committed
        obtain ⟨rfl, rfl⟩ := pure_eq.mp committed
        exact .inl ⟨rfl, fun bad => nomatch bad⟩
      | false => exact (settleFunding_cases same pending committed).imp (fun ⟨ok, moved⟩ => ⟨ok, fun _ => moved⟩) id
    rcases funding with ⟨rfl, moved⟩ | ⟨⟨reason, rfl⟩, rfl⟩
    · dsimp only at ran
      rcases adjusted : s.settleToken env (actualQuota - s.preConsumedQuota) faults middle with ⟨_, _⟩
      rw [bind_apply, adjusted] at ran
      have ne : actualQuota ≠ s.preConsumedQuota := fun _ => same (by omega)
      rcases settleToken_cases adjusted with ⟨rfl, rfl⟩ | ⟨⟨reason, rfl⟩, rfl⟩
      · cases ran
        exact .inr (.inr (.inr ⟨middle, .ok (), _, unsettled, ne, moved, .inl ⟨rfl, rfl⟩, rfl, rfl, rfl⟩))
      · cases ran
        exact .inr (.inr (.inr ⟨_, .error reason, _, unsettled, ne, moved, .inr ⟨⟨reason, rfl⟩, rfl⟩, rfl, rfl, rfl⟩))
    · cases ran
      exact .inr (.inr (.inl ⟨reason, rfl, rfl⟩))

theorem settle_open {actualQuota result} (phase : OpenPhase before accounts s store)
    (ran : s.settle env actualQuota faults store = (result, after)) :
    (∃ s', result = .ok (.ok (), s') ∧ s'.settled = true ∧ s'.refunded = false ∧
      Debited before actualQuota after accounts.funding ∧
        before.tokenDebit after accounts.tokenId = accounts.tokenShare actualQuota) ∨
      (∃ reason, result = .ok (.error reason, s) ∧ after = store) ∨
      (∃ reason s', result = .ok (.error reason, s') ∧ s'.settled = true ∧ s'.refunded = false) := by
  have source : s.funding.account = accounts.funding := congrArg SessionAccounts.funding phase.sameAccounts
  rcases settle_cases ran with ⟨settled, -⟩ | ⟨-, rfl, rfl, rfl⟩ | failed | ⟨middle, _, s', -, -,
    moved, outcome, rfl, settled, kept⟩
  · rw [phase.settled] at settled
    cases settled
  · exact .inl ⟨_, rfl, rfl, phase.refunded, phase.debited, phase.token⟩
  · exact .inr (.inl failed)
  · rcases outcome with ⟨rfl, rfl⟩ | ⟨⟨reason, rfl⟩, -⟩
    · have total : s.preConsumedQuota + (actualQuota - s.preConsumedQuota) = actualQuota := by omega
      have moved := moved phase.fundingSettled
      have debited := debited_moved moved phase.nonnegative (source ▸ phase.debited)
      have token : before.tokenDebit middle accounts.tokenId = accounts.tokenShare s.preConsumedQuota :=
        (tokenDebit_congr (moved_token moved) _).trans phase.token
      have charged := tokenDebit_charge env (actualQuota - s.preConsumedQuota) phase.sameAccounts token
      rw [total] at debited charged
      exact .inl ⟨s', rfl, settled, kept.trans phase.refunded, source ▸ debited_chargeToken debited, charged⟩
    · exact .inr (.inr ⟨reason, s', rfl, settled, kept.trans phase.refunded⟩)

end Settle

/-! ## Reserving more -/

def reservedSource (delta : Int) : FundingSource → FundingSource
  | .wallet funding => .wallet { funding with consumed := funding.consumed + delta }
  | .subscription funding => .subscription funding

section Reserve
variable {middle : BillingStore}

theorem answered_cases {κ β : Type} {m : BillingDb κ Unit}
    {next : Except String Unit → BillingDb κ (Except NewAPIError β)} {faults result b}
    (effect : BillingStore → Prop)
    (body : ∀ result after, m faults store = (result, after) → (result = .ok () ∧ effect after) ∨
    Undone result store after)
    (answers : next (.ok ()) = pure (.ok b)) (refuses : ∀ reason, ∃ apiErr, next (.error reason) = pure (.error apiErr))
    (ran : (attempt m >>= next) faults store = (result, after)) :
    (result = .ok (.ok b) ∧ effect after) ∨ ((∃ apiErr, result = .ok (.error apiErr)) ∧ after = store) := by
  rcases tried : attempt m faults store with ⟨_, _⟩
  rw [bind_apply, tried] at ran
  rcases attempt_cases (fun _ => effect) (fun _ _ ran => (body _ _ ran).imp_left fun ok => ⟨(), ok⟩) tried with
    ⟨_, rfl, moved⟩ | ⟨⟨reason, rfl⟩, rfl⟩
  · simp only [answers] at ran
    cases ran
    exact .inl ⟨rfl, moved⟩
  · obtain ⟨apiErr, refused⟩ := refuses reason
    simp only [refused] at ran
    cases ran
    exact .inr ⟨⟨apiErr, rfl⟩, rfl⟩

theorem reserveFunding_cases {faults result} (ne : delta ≠ 0)
    (ran : s.reserveFunding env delta faults store = (result, after)) :
    (result = .ok (.ok (reservedSource delta s.funding)) ∧ FundingMoved env delta store after s.funding) ∨
      ((∃ apiErr, result = .ok (.error apiErr)) ∧ after = store) := by
  unfold reserveFunding at ran
  cases kind : s.funding with
  | wallet funding =>
    rw [kind] at ran
    exact answered_cases _ (fun _ _ => walletDelta_cases) rfl (fun _ => ⟨_, rfl⟩) ran
  | subscription funding =>
    rw [kind] at ran
    exact answered_cases _ (fun _ _ => subscriptionDelta_cases ne) rfl (fun _ => ⟨_, rfl⟩) ran

theorem rollbackFundingReserve_undoes {faults : Faults FundingStatement String} {source : FundingSource}
    {amount : Int} (pos : 0 < delta) (debited : Debited before amount store source.account)
    (moved : FundingMoved env delta store middle source) (noFault : ∀ label, faults label = none) :
    rollbackFundingReserve env delta (reservedSource delta source) faults middle = (.ok source, store) := by
  cases source with
  | wallet funding =>
    simp only [FundingMoved] at moved
    subst moved
    have undone := changeUser_undo store.accounts env.accounts.batchUpdateEnabled funding.userId (-delta)
    rw [neg_neg] at undone
    refine bind_eq_ok.mpr ⟨.ok (), store, attempt_eq_ok.mpr (.inl ⟨(), rfl, ?_⟩), ?_⟩
    · refine onAccounts_eq.mpr ⟨store.accounts, ?_, rfl⟩
      dsimp only
      rw [increaseUserQuota, changeUserQuota_succeeds pos.le (noFault _), undone]
    · refine pure_eq.mpr ⟨?_, rfl⟩
      simp only [add_sub_cancel_right]
  | subscription =>
    obtain ⟨_, row, -, -, stored, _, bounded⟩ := debited
    obtain ⟨positiveId, _, current, stored', -, saved⟩ := moved
    obtain rfl : row = current := Option.mem_unique stored stored'
    have back : adjust (adjust row delta) (-delta) = row := by
      have nonneg : 0 ≤ row.amountUsed := by omega
      simp only [adjust]
      congr 1
      omega
    have undone : middle.subscriptions.saveSubscription row = store.subscriptions := by
      rw [saved]
      unfold saveSubscription
      simp only
      have sameId : row.id = (adjust row delta).id := rfl
      rw [Table.save_save sameId, Table.save_self (Table.find?_eq_some.mp stored).1]
    refine bind_eq_ok.mpr ⟨.ok (), store, attempt_eq_ok.mpr (.inl ⟨(), rfl, ?_⟩), rfl⟩
    refine onSubscriptions_eq.mpr ⟨store.subscriptions, ?_, ?_⟩
    · refine (postConsumeUserSubscriptionDelta_eq_ok (by omega)).mpr
        ⟨positiveId, fun _ => noFault _, adjust row delta, ?_, ?_, ?_⟩
      · rw [saved]
        exact saveSubscription_row stored delta
      · rw [back]
        exact bounded
      · rw [back, undone]
    · cases store
      simp_all

theorem reserveToken_cases {faults result} (pos : 0 < delta)
    (ran : s.reserveToken env delta faults store = (result, after)) :
    (result = .ok (.ok ()) ∧ after = chargeToken env s.relayInfo delta store) ∨
      ((∃ apiErr, result = .ok (.error apiErr)) ∧ after = store) := by
  unfold reserveToken at ran
  split_ifs at ran with free
  · obtain ⟨rfl, rfl⟩ := pure_eq.mp ran
    have playground : s.relayInfo.isPlayground = true := free.resolve_left (not_le.mpr pos)
    exact .inl ⟨rfl, by rw [chargeToken, if_pos playground]⟩
  · exact answered_cases _ (fun _ _ => preConsumeTokenQuota_cases) rfl (fun _ => ⟨_, rfl⟩) ran

theorem filled_addReserved (after : BillingStore)
    (filled : Filled s.extraReserved s.preConsumedQuota s.relayInfo.subscriptionId store s.funding)
    (pos : 0 < delta) (records : after.subscriptions.records = store.subscriptions.records) :
    let grown := s.addReserved delta (reservedSource delta s.funding)
    Filled grown.extraReserved grown.preConsumedQuota grown.relayInfo.subscriptionId after grown.funding := by
  cases kind : s.funding with
  | wallet funding =>
    rw [kind] at filled
    change funding.consumed + delta = s.preConsumedQuota + delta
    rw [show funding.consumed = s.preConsumedQuota from filled]
  | subscription funding =>
    rw [kind] at filled
    obtain ⟨nonblank, _, positiveId, preConsumed, _, _, record⟩ := filled
    refine ⟨nonblank, rfl, positiveId, preConsumed, ?_, ?_, ?_⟩
    · change 0 ≤ s.extraReserved + delta
      omega
    · change funding.preConsumed + (s.extraReserved + delta) = s.preConsumedQuota + delta
      omega
    · rw [records]
      exact record

theorem addReserved_accounts (s : BillingSession) (delta : Int) :
    (s.addReserved delta (reservedSource delta s.funding)).accounts = s.accounts := by
  unfold addReserved syncRelayInfo
  cases kind : s.funding <;> simp [reservedSource, BillingSession.accounts, FundingSource.account, kind]

theorem syncRelayInfo_eq (s : BillingSession) : s.syncRelayInfo =
    { s with relayInfo := s.syncRelayInfo.relayInfo } := by
  unfold syncRelayInfo
  cases s.funding <;> rfl

theorem openPhase_addReserved (phase : OpenPhase before accounts s store) (pos : 0 < delta)
    (source : s.funding.account = accounts.funding) (debited : Debited before
    (s.preConsumedQuota + delta) middle s.funding.account)
    (token : before.tokenDebit middle accounts.tokenId = accounts.tokenShare s.preConsumedQuota)
    (records : middle.subscriptions.records = store.subscriptions.records) :
    OpenPhase before accounts (s.addReserved delta (reservedSource delta s.funding))
      (chargeToken env s.relayInfo delta middle) := by
  have nonnegative := phase.nonnegative
  have filled := filled_addReserved (chargeToken env s.relayInfo delta middle) phase.filled pos
    (by rw [chargeToken_subscriptions, records])
  have sameAccounts := (addReserved_accounts s delta).trans phase.sameAccounts
  unfold addReserved at filled sameAccounts ⊢
  rw [syncRelayInfo_eq] at filled sameAccounts ⊢
  exact
    { sameAccounts := sameAccounts
      nonnegative := by
        change 0 ≤ s.preConsumedQuota + delta
        omega
      tokenConsumed := congrArg (· + delta) phase.tokenConsumed
      fundingSettled := phase.fundingSettled
      settled := phase.settled
      refunded := phase.refunded
      token := tokenDebit_charge env delta phase.sameAccounts token
      debited := source ▸ debited_chargeToken debited
      filled := filled }

theorem reserve_open {targetQuota faults result}
    (phase : OpenPhase before accounts s store) (rollback : ∀ label, faults (.rollbackFunding label) = none)
    (ran : s.reserve env targetQuota faults store = (result, after)) :
    (∃ s', result = .ok (.ok (), s') ∧ OpenPhase before accounts s' after) ∨
      (∃ apiErr, result = .ok (.error apiErr, s) ∧ after = store) := by
  have source : s.funding.account = accounts.funding := congrArg SessionAccounts.funding phase.sameAccounts
  unfold reserve at ran
  split_ifs at ran with nothing
  · obtain ⟨rfl, rfl⟩ := pure_eq.mp ran
    exact .inl ⟨s, rfl, phase⟩
  · have pos : 0 < targetQuota - s.preConsumedQuota := by
      simp only [not_or, not_le] at nothing
      omega
    generalize targetQuota - s.preConsumedQuota = delta at ran pos
    rcases reserved : (s.reserveFunding env delta).within .funding faults store with ⟨_, middle⟩
    rw [bind_apply, reserved] at ran
    rcases reserveFunding_cases pos.ne' reserved with ⟨rfl, moved⟩ | ⟨⟨apiErr, rfl⟩, rfl⟩
    · dsimp only at ran
      rcases charged : (s.reserveToken env delta).within .token faults middle with ⟨_, _⟩
      rw [bind_apply, charged] at ran
      rcases reserveToken_cases pos charged with ⟨rfl, rfl⟩ | ⟨⟨apiErr, rfl⟩, rfl⟩
      · cases ran
        have token : before.tokenDebit middle accounts.tokenId = accounts.tokenShare s.preConsumedQuota :=
          (tokenDebit_congr (moved_token moved) _).trans phase.token
        have debited := debited_moved moved phase.nonnegative (source ▸ phase.debited)
        exact .inl ⟨_, rfl, openPhase_addReserved phase pos source debited token (moved_records moved)⟩
      · dsimp only at ran
        have undone := rollbackFundingReserve_undoes pos (source ▸ phase.debited) moved rollback
        rw [bind_apply, within_apply, undone] at ran
        cases ran
        exact .inr ⟨apiErr, rfl, rfl⟩
    · cases ran
      exact .inr ⟨apiErr, rfl, rfl⟩

end Reserve
/-! ## The refund job -/

def unrecorded (job : RefundJob) : Int :=
  match job.funding with
  | .wallet _ => 0
  | .subscription _ => job.extraReserved

def RefundProgress (before : BillingStore) (accounts : SessionAccounts) (job : RefundJob) (store : BillingStore) :
    RefundStage → Prop
  | .funding _ => Debited before job.tokenConsumed store accounts.funding ∧
      before.tokenDebit store accounts.tokenId = accounts.tokenShare job.tokenConsumed ∧
      Filled job.extraReserved job.tokenConsumed job.subscriptionId store job.funding
  | .extraReserved => Debited before (unrecorded job) store accounts.funding ∧
      before.tokenDebit store accounts.tokenId = accounts.tokenShare job.tokenConsumed
  | .token => Debited before 0 store accounts.funding ∧
      before.tokenDebit store accounts.tokenId = accounts.tokenShare job.tokenConsumed
  | .finished => Debited before 0 store accounts.funding ∧ before.tokenDebit store accounts.tokenId = 0

structure Refunding (before : BillingStore) (accounts : SessionAccounts) (job : RefundJob)
    (store : BillingStore) : Prop where
  tokenId : job.tokenId = accounts.tokenId
  isPlayground : job.isPlayground = accounts.isPlayground
  account : job.funding.account = accounts.funding
  nonnegative : 0 ≤ job.tokenConsumed
  subscription : ∀ funding, job.funding = .subscription funding →
    0 < funding.subscriptionId ∧ job.subscriptionId = funding.subscriptionId ∧ 0 ≤ job.extraReserved
  progress : RefundProgress before accounts job store job.stage

section Refund
variable {job : RefundJob}

theorem refund_open (phase : OpenPhase before accounts s store) : s.refund = (none, s) ∨
      ∃ job, s.refund = (some job, { s with refunded := true }) ∧ Refunding before accounts job store := by
  unfold refund
  split_ifs
  · exact .inl rfl
  · refine .inr ⟨_, rfl, ?_⟩
    refine
      { tokenId := congrArg SessionAccounts.tokenId phase.sameAccounts
        isPlayground := congrArg SessionAccounts.isPlayground phase.sameAccounts
        account := congrArg SessionAccounts.funding phase.sameAccounts
        nonnegative := phase.tokenConsumed ▸ phase.nonnegative
        subscription := ?_
        progress := ?_ }
    · intro funding kind
      have filled := phase.filled
      rw [show s.funding = .subscription funding from kind] at filled
      exact ⟨filled.positiveId, filled.sameId, filled.extra⟩
    · have debited := phase.debited
      have token := phase.token
      have filled := phase.filled
      rw [← phase.tokenConsumed] at debited token filled
      exact ⟨debited, token, filled⟩

theorem refundAttempt_succeeds {funding : SubscriptionFunding} {extraReserved amount subscriptionId : Int}
    (faults : Faults FundingStatement String) (attempt : Nat)
    (filled : SubscriptionFilled extraReserved amount subscriptionId store.subscriptions funding)
    (debited : Debited before amount store (.subscription funding.subscriptionId))
    (noFault : ∀ label, faults label = none) :
    ∃ after, FundingSource.refundAttempt funding attempt faults store = (.ok (), after) ∧
      after.accounts = store.accounts ∧ Debited before extraReserved after (.subscription funding.subscriptionId) := by
  obtain ⟨base, row, found, baseUsed, stored, _, bounded⟩ := debited
  obtain ⟨record, recorded, requestId, userSubscriptionId, preConsumed, consumed⟩ := filled.record
  have charged : Charged record row store.subscriptions :=
    ⟨by rw [requestId, recorded], by rw [userSubscriptionId, stored]⟩
  have pos := filled.preConsumed
  have extra := filled.extra
  have total := filled.total
  have less : (adjust row (-record.preConsumed)).amountUsed = base.amountUsed + extraReserved := by
    simp only [adjust, preConsumed]
    omega
  have smaller : (adjust row (-record.preConsumed)).amountUsed ≤ row.amountUsed := by omega
  have ran := refundSubscriptionPreConsume_succeeds (fun label => noFault (.refund attempt label))
    (requestId ▸ filled.nonblank) charged consumed (preConsumed ▸ pos)
    (userSubscriptionId ▸ filled.positiveId) fun total => smaller.trans (bounded total)
  rw [requestId] at ran
  refine ⟨_, onSubscriptions_eq.mpr ⟨_, ran, rfl⟩, rfl, base, adjust row (-record.preConsumed), found, baseUsed,
    saveSubscription_row stored _, ?_, fun total => smaller.trans (bounded total)⟩
  omega

theorem fundingDelta_succeeds {funding delta amount} (env)
    (scope : DeltaStatement → SessionStatement) (negative : delta < 0) (positiveId : 0 < funding.subscriptionId)
    (debited : Debited before amount store (.subscription funding.subscriptionId))
    (noFault : ∀ label, faults label = none) :
    ∃ after, onSubscriptions scope (postConsumeUserSubscriptionDelta funding.subscriptionId delta) faults store =
        (.ok (), after) ∧ FundingMoved env delta store after (.subscription funding) := by
  obtain ⟨_, row, _, _, stored, _, bounded⟩ := debited
  have fits : 0 < row.amountTotal → (adjust row delta).amountUsed ≤ row.amountTotal := by
    intro total
    have := bounded total
    simp only [adjust]
    omega
  have adjusted : Adjusted funding.subscriptionId delta store.subscriptions
      (store.subscriptions.saveSubscription (adjust row delta)) := ⟨row, stored, fits, rfl⟩
  refine ⟨_, onSubscriptions_eq.mpr ⟨_, (postConsumeUserSubscriptionDelta_eq_ok negative.ne).mpr
    ⟨positiveId, fun _ => noFault _, adjusted⟩, rfl⟩, positiveId, rfl, adjusted⟩

theorem refunding_moveTo (stage) (refunding : Refunding before accounts job store)
    (progress : RefundProgress before accounts job after stage) :
    Refunding before accounts (job.moveTo stage) after where
  tokenId := refunding.tokenId
  isPlayground := refunding.isPlayground
  account := refunding.account
  nonnegative := refunding.nonnegative
  subscription := refunding.subscription
  progress := by cases stage <;> exact progress

theorem stepFunding_succeeds {attempt} (refunding : Refunding before accounts job store)
    (stage : job.stage = .funding attempt) (noFault : ∀ label, faults label = none) :
    ∃ after, job.stepFunding env attempt faults store = (.ok (.ok (), job.moveTo .extraReserved), after) ∧
      Refunding before accounts (job.moveTo .extraReserved) after := by
  obtain ⟨debited, token, filled⟩ : RefundProgress before accounts job store (.funding attempt) :=
    stage ▸ refunding.progress
  unfold RefundJob.stepFunding
  cases kind : job.funding with
  | wallet funding =>
    rw [kind] at filled
    have consumed : funding.consumed = job.tokenConsumed := filled
    have account : accounts.funding = .user funding.userId := by rw [← refunding.account, kind]; rfl
    have restored : ∃ after, FundingSource.refund env (.wallet funding) (fun label => faults (.funding label)) store =
        (.ok (), after) ∧ FundingMoved env (-job.tokenConsumed) store after (.wallet funding) := by
      simp only [FundingSource.refund]
      split_ifs with nothing
      · refine ⟨store, rfl, ?_⟩
        have zero : job.tokenConsumed = 0 := le_antisymm (consumed ▸ nothing) refunding.nonnegative
        simp only [FundingMoved, zero, neg_zero, changeUser_zero]
      · refine ⟨_, onAccounts_eq.mpr ⟨_, changeUserQuota_succeeds (not_le.mp nothing).le (noFault _), rfl⟩, ?_⟩
        simp only [FundingMoved, neg_neg, consumed]
    obtain ⟨after, ran, moved⟩ := restored
    rw [account] at debited
    have cleared := debited_moved moved refunding.nonnegative debited
    rw [add_neg_cancel] at cleared
    refine ⟨after, attempt_bind_of_ok ran, ?_⟩
    refine refunding_moveTo _ refunding ⟨?_, (tokenDebit_congr (moved_token moved) _).trans token⟩
    rw [account, unrecorded, kind]
    exact cleared
  | subscription funding =>
    rw [kind] at filled
    have account : accounts.funding = .subscription funding.subscriptionId := by rw [← refunding.account, kind]; rfl
    rw [account] at debited
    obtain ⟨after, ran, same, remaining⟩ := refundAttempt_succeeds (fun label => faults (.funding label)) attempt
      filled debited fun _ => noFault _
    simp only [not_le.mpr filled.preConsumed, if_false]
    refine ⟨after, Db.attempt_bind_of_ok ran, ?_⟩
    refine refunding_moveTo _ refunding ⟨?_, ?_⟩
    · rw [account, unrecorded, kind]
      exact remaining
    · exact (tokenDebit_congr (fun _ => by rw [same]) _).trans token

theorem stepExtraReserved_succeeds (env : BillingEnv) (refunding : Refunding before accounts job store)
    (stage : job.stage = .extraReserved) (noFault : ∀ label, faults label = none) :
    ∃ after, job.stepExtraReserved faults store = (.ok (.ok (), job.moveTo .token), after) ∧
      Refunding before accounts (job.moveTo .token) after := by
  obtain ⟨debited, token⟩ : RefundProgress before accounts job store .extraReserved := stage ▸ refunding.progress
  unfold RefundJob.stepExtraReserved
  cases kind : job.funding with
  | wallet =>
    refine ⟨store, ?_, refunding_moveTo .token refunding ⟨?_, token⟩⟩
    · simp only [FundingSource.source, reduceCtorEq, false_and, and_false, if_false]
      rfl
    · simpa only [unrecorded, kind] using debited
  | subscription funding =>
    obtain ⟨positiveId, sameId, nonneg⟩ := refunding.subscription funding kind
    have account : accounts.funding = .subscription funding.subscriptionId := by rw [← refunding.account, kind]; rfl
    have extra : Debited before job.extraReserved store (.subscription funding.subscriptionId) := by
      rw [← account]
      simpa only [unrecorded, kind] using debited
    by_cases pos : 0 < job.extraReserved
    · obtain ⟨after, ran, moved⟩ := fundingDelta_succeeds env (fun label => .funding (.delta label))
        (neg_lt_zero.mpr pos) positiveId extra noFault
      have cleared := debited_moved moved nonneg extra
      rw [add_neg_cancel] at cleared
      rw [if_pos ⟨pos, rfl, sameId ▸ positiveId⟩, sameId]
      refine ⟨after, attempt_bind_of_ok ran, ?_⟩
      refine refunding_moveTo _ refunding ⟨?_, (tokenDebit_congr (moved_token moved) _).trans token⟩
      rw [account]
      exact cleared
    · have zero : job.extraReserved = 0 := le_antisymm (not_lt.mp pos) nonneg
      rw [if_neg fun all => pos all.1]
      refine ⟨store, rfl, refunding_moveTo .token refunding ⟨?_, token⟩⟩
      rw [account, ← zero]
      exact extra

theorem stepToken_succeeds (refunding : Refunding before accounts job store) (stage : job.stage = .token)
    (noFault : ∀ label, faults label = none) :
    ∃ after, job.stepToken env faults store = (.ok (.ok (), job.moveTo .finished), after) ∧
      Refunding before accounts (job.moveTo .finished) after := by
  obtain ⟨debited, token⟩ : RefundProgress before accounts job store .token := stage ▸ refunding.progress
  unfold RefundJob.stepToken
  split_ifs with charged
  · have changed : onAccounts (SessionStatement.token .change)
        (increaseTokenQuota env.accounts job.tokenId job.tokenConsumed) faults store =
          (.ok (), ⟨store.accounts.changeToken env.accounts.batchUpdateEnabled job.tokenId job.tokenConsumed,
            store.subscriptions⟩) :=
      onAccounts_eq.mpr ⟨_, changeTokenQuota_succeeds charged.1.le (noFault _), rfl⟩
    refine ⟨_, attempt_bind_of_ok changed, ?_⟩
    refine refunding_moveTo _ refunding ⟨?_, ?_⟩
    · cases account : accounts.funding with
      | user => simpa only [account, Debited, userBalance_changeToken] using debited
      | subscription => simpa only [account, Debited] using debited
    · have share : accounts.tokenShare job.tokenConsumed = job.tokenConsumed := by
        rw [SessionAccounts.tokenShare, if_neg (by simp [← refunding.isPlayground, charged.2])]
      rw [share, tokenDebit] at token
      rw [tokenDebit, tokenBalance_changeToken, if_pos refunding.tokenId.symm]
      omega
  · refine ⟨store, rfl, refunding_moveTo .finished refunding ⟨debited, ?_⟩⟩
    rw [token, SessionAccounts.tokenShare]
    split_ifs with playground
    · rfl
    · by_contra ne
      refine charged ⟨lt_of_le_of_ne refunding.nonnegative (Ne.symm ne), ?_⟩
      rw [refunding.isPlayground]
      simpa using playground

theorem refunding_finished (refunding : Refunding before accounts job store) (finished : job.stage = .finished) :
    before.fundingDebit store accounts.funding = 0 ∧ before.tokenDebit store accounts.tokenId = 0 := by
  obtain ⟨debited, token⟩ : RefundProgress before accounts job store .finished := finished ▸ refunding.progress
  exact ⟨fundingDebit_nonneg debited le_rfl, token⟩

def nextStage : RefundStage → RefundStage
  | .funding _ => .extraReserved
  | .extraReserved => .token
  | .token => .finished
  | .finished => .finished

theorem refundJob_step (env) (refunding : Refunding before accounts job store)
    (noFault : ∀ label, faults label = none) :
    ∃ job' after, job.step env faults store = (.ok (.ok (), job'), after) ∧ job'.stage = nextStage job.stage ∧
      Refunding before accounts job' after := by
  unfold RefundJob.step
  cases stage : job.stage with
  | funding =>
    obtain ⟨after, ran, progress⟩ := stepFunding_succeeds refunding stage noFault
    exact ⟨_, after, ran, rfl, progress⟩
  | extraReserved =>
    obtain ⟨after, ran, progress⟩ := stepExtraReserved_succeeds env refunding stage noFault
    exact ⟨_, after, ran, rfl, progress⟩
  | token =>
    obtain ⟨after, ran, progress⟩ := stepToken_succeeds refunding stage noFault
    exact ⟨_, after, ran, rfl, progress⟩
  | finished => exact ⟨job, store, rfl, stage, refunding⟩

end Refund

/-! ## Whole histories -/

inductive SessionPhase (works : Prop) (before : BillingStore) (accounts : SessionAccounts) (state : SessionState) :
    Prop where
  | opened (phase : OpenPhase before accounts state.session state.store) (idle : state.job = none)
  | refunding (job : RefundJob) (running : state.job = some job) (refunded : state.session.refunded = true)
      (progress : works → Refunding before accounts job state.store)
  | settled (settled : state.session.settled = true) (kept : state.session.refunded = false) (idle : state.job = none)

structure Orderly (state : SessionState) (event : SessionEvent) : Prop where
  settleFirst : ∀ actualQuota, event.call = .settle actualQuota → state.session.refunded = false
  rollback : ∀ targetQuota, event.call = .reserve targetQuota → ∀ label, event.faults (.rollbackFunding label) = none

def RefundWorks (state : SessionState) (event : SessionEvent) : Prop :=
  event.call = .refundWork → state.job ≠ none → ∀ label, event.faults label = none

section Histories
variable {works : Prop} {state : SessionState}

theorem reserve_closed {s : BillingSession} (closed : s.settled = true ∨ s.refunded = true) (targetQuota : Int)
    (faults : Faults SessionStatement String) (store : BillingStore) :
    s.reserve env targetQuota faults store = (.ok (.ok (), s), store) := by
  unfold reserve
  rw [if_pos]
  · rfl
  · rcases closed with settled | refunded
    · exact .inl settled
    · exact .inr (.inl refunded)

theorem refund_closed {s : BillingSession} (closed : s.settled = true ∨ s.refunded = true) : s.refund = (none, s) := by
  unfold refund
  rw [if_pos]
  rcases closed with settled | refunded
  · simp [settled]
  · simp [refunded]

theorem step_settled (settled : state.session.settled = true) (idle : state.job = none) (event : SessionEvent) :
    state.step env event = state := by
  unfold SessionState.step SessionState.perform
  cases event.call with
  | reserve => simp only [reserve_closed (.inl settled)]
  | settle => simp [settle, settled, pure_apply]
  | refund => simp only [refund_closed (.inl settled)]
  | refundWork => simp only [idle]

theorem run_settled (settled : state.session.settled = true) (idle : state.job = none) (later : List SessionEvent) :
    run (step env) state later = state := by
  induction later with
  | nil => rfl
  | cons _ _ ih => rw [run, step_settled settled idle, ih]

variable {targetQuota actualQuota : Int}

section Phase
variable (phase : OpenPhase before accounts state.session state.store)
include phase

theorem phase_reserve {faults} (idle : state.job = none) (rollback : ∀ label, faults (.rollbackFunding label) = none) :
    SessionPhase works before accounts (state.step env ⟨.reserve targetQuota, faults⟩) := by
  unfold SessionState.step SessionState.perform
  rcases ran : state.session.reserve env targetQuota faults state.store with ⟨_, _⟩
  rcases reserve_open phase rollback ran with ⟨_, rfl, grown⟩ | ⟨_, rfl, rfl⟩
  · simp only [ran]
    exact .opened grown idle
  · simp only [ran]
    exact .opened phase idle

theorem phase_settle {faults} (idle : state.job = none) :
    SessionPhase works before accounts (state.step env ⟨.settle actualQuota, faults⟩) := by
  unfold SessionState.step SessionState.perform
  rcases ran : state.session.settle env actualQuota faults state.store with ⟨_, _⟩
  rcases settle_open phase ran with ⟨_, rfl, settled, kept, -⟩ | ⟨_, rfl, rfl⟩ | ⟨_, _, rfl, settled, kept⟩
  · simp only [ran]
    exact .settled settled kept idle
  · simp only [ran]
    exact .opened phase idle
  · simp only [ran]
    exact .settled settled kept idle

theorem phase_refund {faults} (idle : state.job = none) :
    SessionPhase works before accounts (state.step env ⟨.refund, faults⟩) := by
  unfold SessionState.step SessionState.perform
  rcases refund_open phase with nothing | ⟨job, accepted, progress⟩
  · simp only [nothing]
    exact .opened phase idle
  · simp only [accepted]
    exact .refunding job rfl rfl fun _ => progress

end Phase

theorem phase_refundWork {job faults} (running : state.job = some job)
    (refunded : state.session.refunded = true) (progress : works → Refunding before accounts job state.store)
    (succeeds : works → ∀ label, faults label = none) :
    SessionPhase works before accounts (state.step env ⟨.refundWork, faults⟩) := by
  have next : works → ∃ job' after, job.step env faults state.store = (.ok (.ok (), job'), after) ∧
      Refunding before accounts job' after := by
    intro holds
    obtain ⟨job', after, ran, -, next⟩ := refundJob_step env (progress holds) (succeeds holds)
    exact ⟨job', after, ran, next⟩
  unfold SessionState.step SessionState.perform
  simp only [running]
  rcases ran : job.step env faults state.store with ⟨_ | ⟨_ | ⟨⟩, job'⟩, after⟩
  · refine .refunding job rfl refunded fun holds => ?_
    obtain ⟨_, _, bad, -⟩ := next holds
    simp [ran] at bad
  · refine .refunding job' rfl refunded fun holds => ?_
    obtain ⟨_, _, bad, -⟩ := next holds
    simp [ran] at bad
  · refine .refunding job' rfl refunded fun holds => ?_
    obtain ⟨job'', after', ran', kept⟩ := next holds
    obtain ⟨⟨-, rfl⟩, rfl⟩ : (((), job') = ((), job'')) ∧ after = after' := by simpa [ran] using ran'
    exact kept

theorem phase_step (event : SessionEvent) (phase : SessionPhase works before accounts state)
    (orderly : Orderly state event) (succeeds : works → RefundWorks state event) :
    SessionPhase works before accounts (state.step env event) := by
  obtain ⟨call, _⟩ := event
  cases phase with
  | opened phase idle =>
    cases call with
    | reserve targetQuota => exact phase_reserve phase idle (orderly.rollback targetQuota rfl)
    | settle => exact phase_settle phase idle
    | refund => exact phase_refund phase idle
    | refundWork =>
      unfold SessionState.step SessionState.perform
      simp only [idle]
      exact .opened phase idle
  | refunding job running refunded progress =>
    cases call with
    | reserve | refund =>
      unfold SessionState.step SessionState.perform
      simp only [reserve_closed (.inr refunded), refund_closed (.inr refunded)]
      exact .refunding job running refunded progress
    | settle actualQuota =>
      have bad := orderly.settleFirst actualQuota rfl
      rw [refunded] at bad
      cases bad
    | refundWork => exact phase_refundWork running refunded progress fun holds => succeeds holds rfl (by simp [running])
  | settled settled kept idle =>
    rw [step_settled settled idle]
    exact .settled settled kept idle

theorem phase_run (history : List SessionEvent) (phase : SessionPhase works before accounts state)
    (orderly : Along (step env) Orderly state history) (succeeds : works → Along (step env) RefundWorks state history) :
    SessionPhase works before accounts (run (step env) state history) := by
  by_cases holds : works
  · refine run_invariant (fun _ event phase allowed => ?_) phase (along_and orderly (succeeds holds))
    exact phase_step event phase allowed.1 fun _ => allowed.2
  · refine run_invariant (fun _ event phase allowed => ?_) phase orderly
    exact phase_step event phase allowed fun works => (holds works).elim

def stepsLeft : RefundStage → Nat
  | .funding _ => 3
  | .extraReserved => 2
  | .token => 1
  | .finished => 0

theorem refundWork_finishes (count : Nat) {job} (running : state.job = some job)
    (progress : Refunding before accounts job state.store) (enough : stepsLeft job.stage ≤ count) :
    ∃ job', (run (step env) state (List.replicate count ⟨.refundWork, fun _ => none⟩)).job = some job' ∧
      job'.stage = .finished ∧ Refunding before accounts job'
        (run (step env) state (List.replicate count ⟨.refundWork, fun _ => none⟩)).store := by
  induction count generalizing state job with
  | zero =>
    refine ⟨job, running, ?_, progress⟩
    cases stage : job.stage <;> simp [stage, stepsLeft] at enough ⊢
  | succ _ ih =>
    obtain ⟨job', after, ran, stage, next⟩ := refundJob_step env progress fun _ => rfl
    have stepped : state.step env ⟨.refundWork, fun _ => none⟩ = ⟨state.session, after, some job'⟩ := by
      unfold SessionState.step SessionState.perform
      simp only [running, ran]
    simp only [List.replicate_succ, run, stepped]
    refine ih rfl next ?_
    rw [stage]
    cases current : job.stage <;> simp [current, stepsLeft, nextStage] at enough ⊢ <;> omega

section Phase
variable (phase : SessionPhase works before accounts state)
include phase

theorem settle_accepted {faults} (unsettled : state.session.settled = false)
    (kept : state.session.refunded = false) (accepted : (state.perform env ⟨.settle actualQuota, faults⟩).1 = none) :
    let after := state.step env ⟨.settle actualQuota, faults⟩
    before.fundingDebit after.store accounts.funding = netDebit before actualQuota accounts.funding ∧
      before.tokenDebit after.store accounts.tokenId = accounts.tokenShare actualQuota ∧
      ∀ later, (run (step env) after later).store = after.store := by
  cases phase with
  | refunding _ _ refunded => simp [refunded] at kept
  | settled settled => simp [settled] at unsettled
  | opened phase idle =>
    unfold SessionState.step
    unfold perform at accepted ⊢
    rcases ran : state.session.settle env actualQuota faults state.store with ⟨_, _⟩
    rcases settle_open phase ran with
      ⟨s', rfl, settled, -, debited, token⟩ | ⟨reason, rfl, rfl⟩ | ⟨reason, s', rfl, -⟩
    · simp only [ran]
      refine ⟨fundingDebit_eq debited, token, fun later => ?_⟩
      refine congrArg store (run_settled ?_ ?_ later)
      · exact settled
      · exact idle
    · simp [ran] at accepted
    · simp [ran] at accepted

theorem phase_job {job} (running : state.job = some job) (holds : works) :
    Refunding before accounts job state.store := by
  cases phase with
  | opened _ idle => simp [idle] at running
  | settled _ _ idle => simp [idle] at running
  | refunding job' running' _ progress =>
    obtain rfl : job' = job := Option.mem_unique running' running
    exact progress holds

theorem reserve_failed {faults : Faults SessionStatement String}
    (rollback : ∀ label, faults (.rollbackFunding label) = none)
    (failed : (state.perform env ⟨.reserve targetQuota, faults⟩).1 ≠ none) :
    (state.step env ⟨.reserve targetQuota, faults⟩).store = state.store := by
  cases phase with
  | opened phase =>
    unfold SessionState.step
    unfold perform at failed ⊢
    rcases ran : state.session.reserve env targetQuota faults state.store with ⟨_, _⟩
    rcases reserve_open phase rollback ran with ⟨_, rfl, -⟩ | ⟨_, rfl, rfl⟩
    · simp [ran] at failed
    · simp only [ran]
  | refunding _ _ refunded =>
    unfold SessionState.step SessionState.perform
    simp only [reserve_closed (.inr refunded)]
  | settled settled _ idle => rw [step_settled settled idle]

end Phase

end Histories

/-! ## From the opening of a session -/

/-- No reset by its own plan is due for the subscription that the session has charged. -/
def NoResetDue (env : BillingEnv) (before : BillingStore) (session : BillingSession) : Prop :=
  ∀ funding, session.funding = .subscription funding → ∀ sub row,
    before.subscriptions.subscriptions.find? funding.subscriptionId = some sub →
    Refreshed env.subscriptions before.subscriptions env.dbTimestamp sub row → row.amountUsed = sub.amountUsed

def WellFormed (before : BillingStore) : Prop :=
  ∀ sub ∈ before.subscriptions.subscriptions.rows, 0 < sub.id ∧ 0 ≤ sub.amountUsed

section Opening

theorem charged_row {requestId userId id amount before after env now}
    (charged : SubscriptionCharged env now requestId userId id amount before after)
    (fresh : before.records.find? requestId = none) :
    ∃ sub row, before.subscriptions.find? id = some sub ∧ Refreshed env before now sub row ∧
      after.subscriptions.find? id = some { row with amountUsed := row.amountUsed + amount } ∧
      (0 < row.amountTotal → row.amountUsed + amount ≤ row.amountTotal) ∧
      after.records.find? requestId = some ⟨requestId, userId, id, amount, .consumed⟩ := by
  obtain ⟨middle, sub, row, refreshed, found, -, due, bounded, rfl⟩ := charged
  obtain ⟨_, stored, -⟩ := refreshed.present id sub found
  have sameId : id = row.id := (Table.find?_eq_some.mp found).2.symm.trans (refreshed_id due).symm
  refine ⟨sub, row, found, due, ?_, bounded, ?_⟩
  · change (middle.subscriptions.save { row with amountUsed := row.amountUsed + amount }).find? id = _
    rw [Table.find?_save, if_pos sameId, stored]
    rfl
  · change (middle.records.insert ⟨requestId, userId, id, amount, .consumed⟩).find? requestId = _
    rw [Table.find?_insert (by rw [refreshed.records]; exact fresh), if_pos rfl]

theorem openPhase_opened {relayInfo session} (opened : Opened env relayInfo before after session)
    (fresh : before.subscriptions.records.find? relayInfo.requestId = none) (wellFormed : WellFormed before)
    (noReset : NoResetDue env before session) : OpenPhase before session.accounts session after := by
  have token : before.tokenDebit after session.accounts.tokenId =
    session.accounts.tokenShare session.preConsumedQuota := by
    have share : tokenShare relayInfo session.accounts.tokenId session.preConsumedQuota =
        tokenShare session.relayInfo session.accounts.tokenId session.preConsumedQuota := by
      rw [tokenShare, tokenShare, opened.tokenId, opened.isPlayground]
    rw [tokenDebit, opened.token, share, tokenShare_accounts]
    omega
  refine
    { sameAccounts := rfl
      nonnegative := opened.nonnegative
      tokenConsumed := opened.tokenConsumed
      fundingSettled := opened.fundingSettled
      settled := opened.settled
      refunded := opened.refunded
      token := token
      debited := ?_
      filled := ?_ }
  all_goals
    have filled := opened.filled
    have funding := opened.funding
    have subscriptionId := opened.subscriptionId
  · unfold BillingSession.accounts
    cases kind : session.funding with
    | wallet =>
      rw [kind] at filled funding
      simp only [FundingSource.account, Debited, funding.1, userShare, filled.1, if_true]
    | subscription =>
      rw [kind] at filled funding
      obtain ⟨sub, row, found, due, stored, bounded, -⟩ := charged_row funding.2 fresh
      have mem := (Table.find?_eq_some.mp found).1
      have used := noReset _ kind sub row found due
      have nonnegative := (wellFormed sub mem).2
      have amount := opened.nonnegative
      refine ⟨sub, _, found, nonnegative, stored, ?_, bounded⟩
      simp only [used]
      omega
  · cases kind : session.funding with
    | wallet =>
      rw [kind] at filled
      exact filled.2
    | subscription subscription =>
      rw [kind] at filled funding
      obtain ⟨requestId, nonblank, preConsumed, pos⟩ := filled
      obtain ⟨sub, _, found, -, -, -, recorded⟩ := charged_row funding.2 fresh
      obtain ⟨mem, sameId⟩ := Table.find?_eq_some.mp found
      exact
        { nonblank := nonblank
          sameId := subscriptionId subscription kind
          positiveId := sameId ▸ (wellFormed sub mem).1
          preConsumed := preConsumed ▸ pos
          extra := opened.extraReserved.ge
          total := by rw [preConsumed, opened.extraReserved, add_zero]
          record := ⟨_, by rw [requestId]; exact recorded, ⟨requestId.symm, rfl, preConsumed.symm, rfl⟩⟩ }

end Opening

/-- An accepted settlement replaces the pre-consumed amount by the actual one, for good. An accepted
refund without failing statements leaves no debit, and a failed reserve changes nothing. -/
theorem billingSession_ledger (env : BillingEnv) (relayInfo : RelayInfo) (preConsumedQuota : Int)
    (before opened : BillingStore) (faults : Faults OpenStatement String) (session : BillingSession)
    (nonnegative : 0 ≤ preConsumedQuota)
    (fresh : before.subscriptions.records.find? relayInfo.requestId = none) (wellFormed : WellFormed before)
    (noReset : NoResetDue env before session) (walletRollback : faults (.wallet .rollbackToken) = none)
    (subscriptionRollback : faults (.subscription .rollbackToken) = none)
    (returned : newBillingSession env relayInfo preConsumedQuota faults before = (.ok (.ok session), opened))
    (history : List SessionEvent) (orderly : Along (step env) Orderly (start session opened) history) :
    let state := run (step env) (start session opened) history
    (∀ actualQuota faults, state.session.settled = false → state.session.refunded = false →
      (state.perform env ⟨.settle actualQuota, faults⟩).1 = none →
        let after := state.step env ⟨.settle actualQuota, faults⟩
        before.fundingDebit after.store session.accounts.funding =
          netDebit before actualQuota session.accounts.funding ∧
          before.tokenDebit after.store session.accounts.tokenId = session.accounts.tokenShare actualQuota ∧
          ∀ later, (run (step env) after later).store = after.store) ∧
    (Along (step env) RefundWorks (start session opened) history → ∀ job, state.job = some job →
        let done := run (step env) state (List.replicate 3 ⟨.refundWork, fun _ => none⟩)
        (done.job.map RefundJob.stage = some .finished ∧ before.fundingDebit done.store session.accounts.funding = 0 ∧
          before.tokenDebit done.store session.accounts.tokenId = 0) ∧
        (job.stage = .finished → before.fundingDebit state.store session.accounts.funding = 0 ∧
          before.tokenDebit state.store session.accounts.tokenId = 0)) ∧
    (∀ targetQuota faults, (∀ label, faults (.rollbackFunding label) = none) →
      (state.perform env ⟨.reserve targetQuota, faults⟩).1 ≠ none →
        (state.step env ⟨.reserve targetQuota, faults⟩).store = state.store) := by
  intro state
  have outcome := newBillingSession_outcome env nonnegative fresh walletRollback subscriptionRollback
  rw [returned] at outcome
  have start := openPhase_opened outcome.1 fresh wellFormed noReset
  have phase {works : Prop} (succeeds : works → Along (step env) RefundWorks (.start session opened) history) :
      SessionPhase works before session.accounts state := phase_run history (.opened start rfl) orderly succeeds
  refine ⟨fun _ _ unsettled kept accepted => ?_, fun succeeds job running => ?_,
    fun _ _ rollback failed => ?_⟩
  · exact settle_accepted (phase False.elim) unsettled kept accepted
  · have progress := phase_job (phase fun _ : True => succeeds) running trivial
    refine ⟨?_, refunding_finished progress⟩
    obtain ⟨_, worked, finished, progress'⟩ := refundWork_finishes 3 running progress
      (by cases job.stage <;> simp [stepsLeft])
    exact ⟨by rw [worked, Option.map_some, finished], refunding_finished progress' finished⟩
  · exact reserve_failed (phase False.elim) rollback failed

theorem walletStore_wellFormed : WellFormed walletStore := by
  unfold WellFormed
  decide

theorem walletStore_noResetDue (session) : NoResetDue plainEnv walletStore session := by
  intro _ _ _ _ found refreshed
  obtain rfl := List.mem_singleton.mp (Table.find?_eq_some.mp found).1
  rcases refreshed with rfl | ⟨plan, own, due⟩
  · rfl
  · cases own
    cases due

def growAndSettle : List SessionEvent := [⟨.reserve 20, fun _ => none⟩, ⟨.settle 15, fun _ => none⟩]

theorem billingSession_ledger_wallet : ∃ session opened, newBillingSession plainEnv walletRequest 10
    (fun _ => none) walletStore =
        (.ok (.ok session), opened) ∧ walletStore.fundingDebit
          (run (step plainEnv) (.start session opened) growAndSettle).store
        session.accounts.funding = netDebit walletStore 15 session.accounts.funding ∧
      walletStore.tokenDebit (run (step plainEnv) (.start session opened) growAndSettle).store
        session.accounts.tokenId = session.accounts.tokenShare 15 := by
  obtain ⟨session, opened, ran, unsettled, kept, accepted⟩ := wallet_opens (fun session opened =>
      let state := (start session opened).step plainEnv ⟨.reserve 20, fun _ => none⟩
      state.session.settled = false ∧ state.session.refunded = false ∧
        (state.perform plainEnv ⟨.settle 15, fun _ => none⟩).1 = none)
    (by decide +kernel)
  have orderly : Along (step plainEnv) Orderly (.start session opened) [⟨.reserve 20, fun _ => none⟩] :=
    ⟨⟨fun _ called => (nomatch called), fun _ _ _ => rfl⟩, trivial⟩
  have ledger := billingSession_ledger plainEnv walletRequest 10 walletStore opened (fun _ => none) session
    (by decide) rfl walletStore_wellFormed (walletStore_noResetDue session) rfl rfl ran
      [⟨.reserve 20, fun _ => none⟩] orderly
  obtain ⟨funding, token, -⟩ := ledger.1 15 (fun _ => none) unsettled kept accepted
  exact ⟨session, opened, ran, funding, token⟩

def tokenFails : Faults SessionStatement String
  | .token _ => some "token update failed"
  | _ => none

theorem settle_again_after_token_failure : ∃ session opened,
    newBillingSession plainEnv walletRequest 10 (fun _ => none) walletStore =
        (.ok (.ok session), opened) ∧
      let first : SessionEvent := ⟨.settle 15, tokenFails⟩
      let again : SessionEvent := ⟨.settle 15, fun _ => none⟩
      let state := (start session opened).step plainEnv first
      ((start session opened).perform plainEnv first).1 = some "token update failed" ∧
        (state.perform plainEnv again).1 = none ∧
        walletStore.fundingDebit (state.step plainEnv again).store session.accounts.funding = 15 ∧
        session.accounts.tokenShare 15 = 15 ∧
        walletStore.tokenDebit (state.step plainEnv again).store session.accounts.tokenId = 10 := by
  exact wallet_opens _ (by decide +kernel)

end NewApi.Proof
