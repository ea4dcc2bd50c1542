import NewApi.Proof.PreConsume

/-! # Opening a billing session -/

namespace NewApi.Proof
open Library Common Model Service BillingSession Accounts Db
variable {relayInfo : RelayInfo} {store after : BillingStore} {quota : Int} {source : FundingSource}

/-! ## Debits of the token -/

def chargeToken (env : BillingEnv) (relayInfo : RelayInfo) (amount : Int) (store : BillingStore) : BillingStore :=
  if relayInfo.isPlayground then store
  else { store with accounts := store.accounts.changeToken env.accounts.batchUpdateEnabled relayInfo.tokenId (-amount) }

def tokenShare (relayInfo : RelayInfo) (id amount : Int) : Int :=
  if id = relayInfo.tokenId ∧ relayInfo.isPlayground = false then amount else 0

section Token
variable {env : BillingEnv}

theorem changeToken_zero (accounts : Accounts) (inMemory : Bool) (id : Int) :
    accounts.changeToken inMemory id 0 = accounts := by
  cases inMemory <;> simp [changeToken, addTokenRecord, updateTokenQuota]

theorem changeUser_zero (accounts : Accounts) (inMemory : Bool) (id : Int) :
    accounts.changeUser inMemory id 0 = accounts := by
  cases inMemory <;> simp [changeUser, addUserRecord, updateUserQuota]

theorem chargeToken_zero : chargeToken env relayInfo 0 store = store := by
  unfold chargeToken
  split_ifs
  · rfl
  · rw [neg_zero, changeToken_zero]

@[simp] theorem chargeToken_subscriptions (amount : Int) :
    (chargeToken env relayInfo amount store).subscriptions = store.subscriptions := by
  unfold chargeToken
  split_ifs <;> rfl

@[simp] theorem chargeToken_userBalance (amount id : Int) :
    (chargeToken env relayInfo amount store).accounts.userBalance id = store.accounts.userBalance id := by
  unfold chargeToken
  split_ifs
  · rfl
  · exact userBalance_changeToken ..

theorem chargeToken_tokenBalance (amount id : Int) : (chargeToken env relayInfo amount store).accounts.tokenBalance id =
      store.accounts.tokenBalance id - tokenShare relayInfo id amount := by
  unfold chargeToken tokenShare
  split_ifs with playground same same
  · simp [playground] at same
  · rw [sub_zero]
  · rw [tokenBalance_changeToken, if_pos same.1, sub_eq_add_neg]
  · rw [tokenBalance_changeToken, if_neg fun id_eq => same ⟨id_eq, by simpa using playground⟩, sub_zero, add_zero]

theorem getTokenByKey_readOnly (env) (key : String) : Db.ReadOnly (getTokenByKey env key) := by
  unfold getTokenByKey
  cases env.tokenCache key with
  | some => exact readOnly_pure _
  | none =>
    refine readOnly_bind (readOnly_query _ _) fun found => ?_
    cases found with
    | some => exact readOnly_pure _
    | none => exact readOnly_fail _

theorem getTokenByKey_terminates (env) (key : String) : Db.Terminates (getTokenByKey env key) := by
  unfold getTokenByKey
  cases env.tokenCache key with
  | some => exact terminates_pure _
  | none =>
    refine terminates_bind (terminates_statement _ _) fun found => ?_
    cases found with
    | some => exact terminates_pure _
    | none => exact terminates_fail _

theorem onAccounts_readOnly {κ α : Type} {label : κ} {body : AccountDb α} (reads : Db.ReadOnly body) :
    Db.ReadOnly (onAccounts label body) :=
  readOnly_within (readOnly_zoom (fun _ => rfl) reads)

theorem onSubscriptions_readOnly {κ κ' α : Type} {scope : κ' → κ} {body : SubscriptionDb κ' α}
    (reads : Db.ReadOnly body) : Db.ReadOnly (onSubscriptions scope body) :=
  readOnly_within (readOnly_zoom (fun _ => rfl) reads)

theorem preConsumeTokenQuota_cases {quota : Int} {faults result}
    (ran : preConsumeTokenQuota env relayInfo quota faults store = (result, after)) :
    (result = .ok () ∧ after = chargeToken env relayInfo quota store) ∨ Undone result store after := by
  unfold preConsumeTokenQuota at ran
  split_ifs at ran with negative playground
  · obtain ⟨rfl, rfl⟩ := fail_eq.mp ran
    exact .inr ⟨⟨_, rfl⟩, rfl⟩
  · obtain ⟨rfl, rfl⟩ := pure_eq.mp ran
    exact .inl ⟨rfl, by rw [chargeToken, if_pos playground]⟩
  · rcases found : onAccounts TokenStatement.find (getTokenByKey env.accounts relayInfo.tokenKey)
      faults store with ⟨answer, _⟩
    obtain rfl := onAccounts_readOnly (getTokenByKey_readOnly _ _) _ _ _ _ found
    rw [bind_apply, found] at ran
    cases answer with
    | error halt =>
      cases halt with
      | error reason =>
        cases ran
        exact .inr ⟨⟨reason, rfl⟩, rfl⟩
      | diverges => exact absurd found (onAccounts_terminates (getTokenByKey_terminates _ _) _ _ _)
    | ok =>
      simp only at ran
      split_ifs at ran
      · obtain ⟨rfl, rfl⟩ := fail_eq.mp ran
        exact .inr ⟨⟨_, rfl⟩, rfl⟩
      · obtain ⟨_, changed, rfl⟩ := onAccounts_eq.mp ran
        rcases changeTokenQuota_cases changed with ⟨rfl, -, rfl⟩ | ⟨failed, rfl⟩
        · exact .inl ⟨rfl, by rw [chargeToken, if_neg playground]⟩
        · exact .inr ⟨failed, rfl⟩

end Token

/-! ## A session as it is opened -/

def userShare (relayInfo : RelayInfo) (id amount : Int) : Int := if id = relayInfo.userId then amount else 0

def FundingDebited (env : BillingEnv) (relayInfo : RelayInfo) (before after : BillingStore) (amount : Int) :
    FundingSource → Prop
  | .wallet _ =>
    (∀ id, after.accounts.userBalance id = before.accounts.userBalance id - userShare relayInfo id amount) ∧
      after.subscriptions = before.subscriptions
  | .subscription funding =>
    (∀ id, after.accounts.userBalance id = before.accounts.userBalance id) ∧
      SubscriptionCharged env.subscriptions env.dbTimestamp relayInfo.requestId relayInfo.userId
        funding.subscriptionId amount before.subscriptions after.subscriptions

def FundingFilled (relayInfo : RelayInfo) (amount : Int) : FundingSource → Prop
  | .wallet funding => funding.userId = relayInfo.userId ∧ funding.consumed = amount
  | .subscription funding =>
    funding.requestId = relayInfo.requestId ∧ trimSpace funding.requestId ≠ "" ∧
      funding.preConsumed = amount ∧ 0 < amount

structure Opened (env : BillingEnv) (relayInfo : RelayInfo) (before after : BillingStore)
    (session : BillingSession) : Prop where
  nonnegative : 0 ≤ session.preConsumedQuota
  tokenConsumed : session.tokenConsumed = session.preConsumedQuota
  extraReserved : session.extraReserved = 0
  fundingSettled : session.fundingSettled = false
  settled : session.settled = false
  refunded : session.refunded = false
  userId : session.relayInfo.userId = relayInfo.userId
  billingSource : session.relayInfo.billingSource = some session.funding.source
  tokenId : session.relayInfo.tokenId = relayInfo.tokenId
  isPlayground : session.relayInfo.isPlayground = relayInfo.isPlayground
  subscriptionId : ∀ funding, session.funding = .subscription funding →
    session.relayInfo.subscriptionId = funding.subscriptionId
  filled : FundingFilled relayInfo session.preConsumedQuota session.funding
  token : ∀ id, after.accounts.tokenBalance id =
    before.accounts.tokenBalance id - tokenShare relayInfo id session.preConsumedQuota
  funding : FundingDebited env relayInfo before after session.preConsumedQuota session.funding

section Funding
variable {env : BillingEnv} {middle : BillingStore} {amount : Int}

theorem getSubscriptionPlanInfo_readOnly (env) (id : Int) :
    Db.ReadOnly (getSubscriptionPlanInfoByUserSubscriptionId env id) := by
  refine readOnly_ite (readOnly_fail _) ?_
  cases env.planInfoCache id with
  | some info => exact readOnly_pure info
  | none =>
    refine readOnly_bind (readOnly_query _ _) fun found => ?_
    cases found with
    | none => exact readOnly_fail _
    | some => exact readOnly_bind (readOnly_within (getSubscriptionPlanById_readOnly env _)) fun _ => readOnly_pure _

theorem fundingPreConsume_error {faults reason}
    (ran : source.preConsume env amount faults store = (.error (.error reason), after)) : after = store := by
  cases source with
  | wallet =>
    unfold FundingSource.preConsume at ran
    split_ifs at ran
    · exact (pure_eq.mp ran).2
    · rcases bind_eq_error.mp ran with failed | ⟨_, _, -, ret⟩
      · obtain ⟨_, changed, rfl⟩ := onAccounts_eq.mp failed
        rcases changeUserQuota_cases changed with ⟨bad, -⟩ | ⟨-, rfl⟩
        · cases bad
        · rfl
      · cases (pure_eq.mp ret).1
  | subscription =>
    rcases bind_eq_error.mp ran with failed | ⟨res, _, -, cont⟩
    · obtain ⟨_, body, rfl⟩ := onSubscriptions_eq.mp failed
      rw [preConsumeUserSubscription_error body]
    · -- Reading the plan for the log cannot make the charge fail.
      rcases bind_eq_error.mp cont with failed | ⟨info, _, -, ret⟩
      · cases (attempt_eq_error.mp failed).1
      · cases info <;> cases (pure_eq.mp ret).1

theorem fundingPreConsume_wallet {faults funding charged} (unused : funding.consumed = 0) (nonneg : 0 ≤ amount)
    (ran : (FundingSource.wallet funding).preConsume env amount faults store = (.ok charged, after)) :
    charged = .wallet { funding with consumed := amount } ∧
      after = { store with accounts :=
        store.accounts.changeUser env.accounts.batchUpdateEnabled funding.userId (-amount) } := by
  unfold FundingSource.preConsume at ran
  split_ifs at ran with nothing
  · obtain ⟨rfl, rfl⟩ := pure_eq_ok.mp ran
    obtain rfl : amount = 0 := le_antisymm nothing nonneg
    rw [neg_zero, changeUser_zero]
    exact ⟨by rw [← unused], rfl⟩
  · obtain ⟨_, _, decreased, ret⟩ := bind_eq_ok.mp ran
    obtain ⟨rfl, rfl⟩ := pure_eq_ok.mp ret
    obtain ⟨_, changed, rfl⟩ := onAccounts_eq.mp decreased
    rcases changeUserQuota_cases changed with ⟨-, -, rfl⟩ | ⟨⟨_, bad⟩, -⟩
    · exact ⟨rfl, rfl⟩
    · cases bad

theorem fundingPreConsume_subscription {faults funding} {charged : FundingSource}
    (fresh : store.subscriptions.records.find? funding.requestId = none)
    (ran : (FundingSource.subscription funding).preConsume env amount faults store = (.ok charged, after)) :
    ∃ filled, charged = .subscription filled ∧ filled.requestId = funding.requestId ∧
      filled.preConsumed = funding.amount ∧ trimSpace funding.requestId ≠ "" ∧ 0 < funding.amount ∧
      after.accounts = store.accounts ∧ SubscriptionCharged env.subscriptions env.dbTimestamp
        funding.requestId funding.userId
        filled.subscriptionId funding.amount store.subscriptions after.subscriptions := by
  obtain ⟨_, _, consumed, cont⟩ := bind_eq_ok.mp ran
  obtain ⟨_, body, rfl⟩ := onSubscriptions_eq.mp consumed
  obtain ⟨nonblank, pos, amount_eq, debited⟩ := preConsumeUserSubscription_ok fresh body
  obtain ⟨info, _, read, ret⟩ := bind_eq_ok.mp cont
  obtain rfl := readOnly_attempt (onSubscriptions_readOnly (getSubscriptionPlanInfo_readOnly _ _)) _ _ _ _ read
  cases info with
  | ok plan | error reason =>
    obtain ⟨rfl, rfl⟩ := pure_eq_ok.mp ret
    exact ⟨_, rfl, rfl, amount_eq, nonblank, pos, rfl, debited⟩

end Funding

section PreConsume
variable {env : BillingEnv} {faults : Faults SessionStatement String}

variable {s session : BillingSession}

theorem preConsumeToken_cases {result} (ran : s.preConsumeToken env quota faults store = (result, after)) :
    (result = .ok (.ok ()) ∧ after = chargeToken env s.relayInfo (if 0 < quota then quota else 0) store) ∨
      ((∃ reason, result = .ok (.error reason)) ∧ after = store) := by
  unfold preConsumeToken at ran
  split_ifs at ran with pos
  · rw [if_pos pos]
    have body (result : Except (Halt String) Unit) (after : BillingStore)
        (ran : (preConsumeTokenQuota env s.relayInfo quota).within .token faults store = (result, after)) :
        (∃ a, result = .ok a ∧ after = chargeToken env s.relayInfo quota store) ∨ Undone result store after :=
      (preConsumeTokenQuota_cases ran).imp (fun ok => ⟨(), ok⟩) id
    exact (attempt_cases _ body ran).imp (fun ⟨_, ok⟩ => ok) id
  · obtain ⟨rfl, rfl⟩ := pure_eq.mp ran
    rw [if_neg pos, chargeToken_zero]
    exact .inl ⟨rfl, rfl⟩

theorem rollbackToken_undoes {tokenConsumed} (nonneg : 0 ≤ tokenConsumed) (rollback : faults .rollbackToken = none) :
    s.rollbackToken env tokenConsumed faults (chargeToken env s.relayInfo tokenConsumed store) = (.ok (), store) := by
  unfold rollbackToken
  split_ifs with needed
  · refine bind_eq_ok.mpr ⟨.ok (), store, attempt_eq_ok.mpr (.inl ⟨(), rfl, ?_⟩), rfl⟩
    rw [chargeToken, if_neg (by simp [needed.2])]
    refine onAccounts_eq.mpr ⟨store.accounts, ?_, rfl⟩
    have undone := changeToken_undo store.accounts env.accounts.batchUpdateEnabled s.relayInfo.tokenId (-tokenConsumed)
    rw [neg_neg] at undone
    rw [increaseTokenQuota, changeTokenQuota_succeeds nonneg rollback, undone]
  · refine pure_eq.mpr ⟨rfl, ?_⟩
    by_cases playground : s.relayInfo.isPlayground = true
    · rw [chargeToken, if_pos playground]
    · obtain rfl : tokenConsumed = 0 := by
        by_contra ne
        exact needed ⟨lt_of_le_of_ne nonneg (Ne.symm ne), by simpa using playground⟩
      rw [chargeToken_zero]

theorem preConsume_cases {result} (rollback : faults .rollbackToken = none)
    (ran : s.preConsume env quota faults store = (result, after)) :
    (∃ effective funding, effective = (if s.shouldTrust env = true then 0 else quota) ∧
      s.funding.preConsume env effective (fun label => faults (.funding label))
        (chargeToken env s.relayInfo (if 0 < effective then effective else 0) store) = (.ok funding, after) ∧
      result = .ok (.ok (syncRelayInfo { s with
        funding := funding, trusted := s.shouldTrust env
        tokenConsumed := if 0 < effective then effective else 0, preConsumedQuota := effective }))) ∨
    (∃ apiErr, result = .ok (.error apiErr)) ∧ after = store ∨ result = .error .diverges := by
  unfold preConsume at ran
  dsimp only at ran
  generalize effective_eq : (if s.shouldTrust env = true then 0 else quota) = effective at ran
  rcases consumed : s.preConsumeToken env effective faults store with ⟨_, charged⟩
  rw [bind_apply, consumed] at ran
  rcases preConsumeToken_cases consumed with ⟨rfl, rfl⟩ | ⟨⟨_, rfl⟩, rfl⟩
  · rcases funded : s.funding.preConsume env effective (fun label => faults (.funding label))
      (chargeToken env s.relayInfo (if 0 < effective then effective else 0) store) with ⟨outcome, middle⟩
    simp only [bind_apply, attempt, within_apply, funded] at ran
    rcases outcome with (reason | _) | funding
    · obtain rfl := fundingPreConsume_error funded
      simp only [bind_apply, rollbackToken_undoes (show 0 ≤ if 0 <
        effective then effective else 0 by split_ifs <;> omega) rollback] at ran
      cases ran
      exact .inr (.inl ⟨⟨_, rfl⟩, rfl⟩)
    · cases ran
      exact .inr (.inr rfl)
    · cases ran
      exact .inl ⟨_, _, rfl, funded, rfl⟩
  · cases ran
    exact .inr (.inl ⟨⟨_, rfl⟩, rfl⟩)

theorem shouldTrust_subscription {funding} (subscribed : s.funding = .subscription funding) :
    s.shouldTrust env = false := by
  unfold shouldTrust
  rw [subscribed]
  split_ifs <;> rfl

theorem preConsume_wallet {effective funding faults}
    (funded : (walletSession relayInfo).funding.preConsume env effective faults
    (chargeToken env relayInfo (if 0 < effective then effective else 0) store) =
    (.ok funding, after)) (nonneg : 0 ≤ effective) (trusted) :
    Opened env relayInfo store after (syncRelayInfo { walletSession relayInfo with
      funding := funding, trusted := trusted
      tokenConsumed := if 0 < effective then effective else 0, preConsumedQuota := effective }) ∧
        ∃ wallet, funding = .wallet wallet := by
  have tokenConsumed : (if 0 < effective then effective else 0) = effective := by split_ifs <;> omega
  rw [tokenConsumed] at funded ⊢
  obtain ⟨rfl, rfl⟩ := fundingPreConsume_wallet rfl nonneg funded
  refine ⟨⟨nonneg, rfl, rfl, rfl, rfl, rfl, rfl, rfl, rfl, rfl, ?_, ⟨rfl, rfl⟩, ?_, ⟨?_, ?_⟩⟩, _, rfl⟩
  · intro _ bad
    cases bad
  · intro _
    rw [tokenBalance_changeUser, chargeToken_tokenBalance]
    rfl
  · intro _
    rw [userBalance_changeUser, chargeToken_userBalance]
    simp only [syncRelayInfo, userShare]
    split_ifs <;> omega
  · exact chargeToken_subscriptions _

theorem preConsume_subscription {funding faults} (fresh : store.subscriptions.records.find? relayInfo.requestId = none)
    (funded : (subscriptionSession relayInfo quota).funding.preConsume env quota faults
    (chargeToken env relayInfo (if 0 < quota then quota else 0) store) = (.ok funding, after)) :
    0 < quota ∧ Opened env relayInfo store after (syncRelayInfo { subscriptionSession relayInfo quota with
      funding := funding, trusted := false
      tokenConsumed := if 0 < quota then quota else 0, preConsumedQuota := quota }) ∧
        ∃ filled, funding = .subscription filled := by
  obtain ⟨filled, rfl, requestId, preConsumed, nonblank, pos, accounts, debited⟩ :=
    fundingPreConsume_subscription (by rw [chargeToken_subscriptions]; exact fresh) funded
  simp only at pos preConsumed nonblank debited requestId
  rw [chargeToken_subscriptions] at debited
  simp only [if_pos pos] at accounts ⊢
  have filledIn : FundingFilled relayInfo quota (.subscription filled) :=
    ⟨requestId, by rwa [requestId], preConsumed, pos⟩
  refine ⟨pos, ⟨pos.le, rfl, rfl, rfl, rfl, rfl, rfl, rfl, rfl, rfl, ?_, filledIn, ?_, ⟨?_, debited⟩⟩, _, rfl⟩
  · intro _ same
    cases same
    rfl
  · intro _
    rw [accounts, chargeToken_tokenBalance]
    rfl
  · intro _
    rw [accounts, chargeToken_userBalance]

end PreConsume

/-! ## The choice of the funding source -/

def OpenOutcome (env : BillingEnv) (relayInfo : RelayInfo) (preConsumedQuota : Int) (before : BillingStore) :
    Except (Halt String) (Except NewAPIError BillingSession) × BillingStore → Prop
  | (.ok (.error _), after) => after = before
  | (.ok (.ok session), after) =>
    Opened env relayInfo before after session ∧ (session.preConsumedQuota = 0 →
      session.trusted = true ∨ (session.funding.source = .wallet ∧ preConsumedQuota = 0))
  | (.error halt, _) => halt = .diverges

section Open
variable {env : BillingEnv} {preConsumedQuota : Int} {faults : Faults OpenStatement String}

theorem getUserQuota_readOnly (env) (id : Int) : Db.ReadOnly (getUserQuota env id) := by
  unfold getUserQuota
  cases env.userQuotaCache id with
  | some quota => exact readOnly_pure quota
  | none => exact readOnly_query _ _

theorem getUserQuota_terminates (env) (id : Int) : Db.Terminates (getUserQuota env id) := by
  unfold getUserQuota
  cases env.userQuotaCache id with
  | some quota => exact terminates_pure quota
  | none => exact terminates_statement _ _

theorem checked_bind {κ α β : Type} {check : BillingDb κ α} {next : Except String α → BillingDb κ β}
    (reads : Db.ReadOnly check) (ends : Db.Terminates check) (faults : Faults κ String) (store) :
    ∃ answer, (attempt check >>= next) faults store = next answer faults store := by
  obtain ⟨answer, _, tried⟩ := attempt_returns ends faults store
  obtain rfl := readOnly_attempt reads _ _ _ _ tried
  exact ⟨answer, by rw [bind_apply, tried]⟩

theorem opened_userQuota {userQuota after session}
    (opened : Opened env { relayInfo with userQuota := userQuota } store after session) :
    Opened env relayInfo store after session := by
  obtain ⟨h₁, h₂, h₃, h₄, h₅, h₆, h₇, h₈, h₉, h₁₀, h₁₁, filled, token, funding⟩ := opened
  refine ⟨h₁, h₂, h₃, h₄, h₅, h₆, h₇, h₈, h₉, h₁₀, h₁₁, ?_, token, ?_⟩
  · generalize session.funding = source at filled
    cases source <;> exact filled
  · generalize session.funding = source at funding
    cases source <;> exact funding

theorem tryWallet_outcome (nonneg : 0 ≤ preConsumedQuota) (rollback : faults (.wallet .rollbackToken) = none) :
    OpenOutcome env relayInfo preConsumedQuota store (tryWallet env relayInfo preConsumedQuota faults store) := by
  unfold tryWallet
  obtain ⟨answer, cont⟩ := checked_bind (onAccounts_readOnly (getUserQuota_readOnly env.accounts relayInfo.userId))
    (onAccounts_terminates (getUserQuota_terminates _ _)) faults store
  rw [cont]
  cases answer with
  | error => exact rfl
  | ok userQuota =>
    dsimp only
    split_ifs
    · exact rfl
    · exact rfl
    · rw [within_apply]
      rcases ran : (walletSession { relayInfo with userQuota := userQuota }).preConsume env preConsumedQuota
        (fun label => faults (.wallet label)) store with ⟨result, after⟩
      rcases preConsume_cases rollback ran with ⟨effective, _, effective_eq, funded, rfl⟩ | ⟨⟨_, rfl⟩, same⟩ | rfl
      · have effective_nonneg : 0 ≤ effective := by
          rw [effective_eq]
          split_ifs <;> omega
        obtain ⟨opened, _, rfl⟩ := preConsume_wallet funded effective_nonneg _
        refine ⟨opened_userQuota opened, fun zero => ?_⟩
        replace zero : effective = 0 := zero
        split_ifs at effective_eq with trusting
        · exact .inl trusting
        · exact .inr ⟨rfl, effective_eq.symm.trans zero⟩
      · exact same
      · exact rfl

theorem trySubscription_outcome (fresh : store.subscriptions.records.find? relayInfo.requestId = none)
    (rollback : faults (.subscription .rollbackToken) = none) :
    OpenOutcome env relayInfo preConsumedQuota store (trySubscription env relayInfo preConsumedQuota faults store) := by
  unfold trySubscription
  rw [within_apply]
  generalize (if preConsumedQuota ≤ 0 then 1 else preConsumedQuota) = subConsume
  rcases ran : (subscriptionSession relayInfo subConsume).preConsume env subConsume
    (fun label => faults (.subscription label)) store with ⟨result, after⟩
  rcases preConsume_cases rollback ran with ⟨_, _, rfl, funded, rfl⟩ | ⟨⟨_, rfl⟩, same⟩ | rfl
  · have wary : (subscriptionSession relayInfo subConsume).shouldTrust env = false := shouldTrust_subscription rfl
    simp only [wary, Bool.false_eq_true, if_false] at funded ⊢
    obtain ⟨pos, opened, _, rfl⟩ := preConsume_subscription fresh funded
    exact ⟨opened, fun zero => absurd zero pos.ne'⟩
  · exact same
  · exact rfl

theorem openOutcome_bind {first : BillingDb OpenStatement (Except NewAPIError BillingSession)}
    {next : Except NewAPIError BillingSession → BillingDb OpenStatement (Except NewAPIError BillingSession)}
    (tried : OpenOutcome env relayInfo preConsumedQuota store (first faults store))
    (kept : ∀ session, next (.ok session) = pure (.ok session))
    (second : ∀ apiErr, OpenOutcome env relayInfo preConsumedQuota store (next (.error apiErr) faults store)) :
    OpenOutcome env relayInfo preConsumedQuota store ((first >>= next) faults store) := by
  rw [bind_apply]
  revert tried
  rcases first faults store with ⟨result, after⟩
  intro tried
  cases result with
  | error => exact tried
  | ok outcome =>
    cases outcome with
    | error apiErr =>
      obtain rfl : after = store := tried
      exact second apiErr
    | ok =>
      simp only [kept]
      exact tried

theorem hasActive_readOnly (userId now : Int) : Db.ReadOnly (hasActiveUserSubscription userId now) :=
  readOnly_ite (readOnly_fail _) (readOnly_query _ _)

theorem hasActive_terminates (userId now : Int) : Db.Terminates (hasActiveUserSubscription userId now) :=
  terminates_ite (terminates_fail _) (terminates_statement _ _)

theorem allowOverflow_readOnly (userId now : Int) : Db.ReadOnly
    (userActiveSubscriptionsAllowWalletOverflow userId now) :=
  readOnly_ite (readOnly_fail _) (readOnly_query _ _)

theorem allowOverflow_terminates (userId now : Int) : Db.Terminates
    (userActiveSubscriptionsAllowWalletOverflow userId now) :=
  terminates_ite (terminates_fail _) (terminates_statement _ _)

variable (env) in
theorem newBillingSession_outcome (nonneg : 0 ≤ preConsumedQuota)
    (fresh : store.subscriptions.records.find? relayInfo.requestId = none)
    (walletRollback : faults (.wallet .rollbackToken) = none)
    (subscriptionRollback : faults (.subscription .rollbackToken) = none) :
    OpenOutcome env relayInfo preConsumedQuota store
      (newBillingSession env relayInfo preConsumedQuota faults store) := by
  have wallet : OpenOutcome env relayInfo preConsumedQuota store
      (tryWallet env relayInfo preConsumedQuota faults store) := tryWallet_outcome nonneg walletRollback
  have subscription : OpenOutcome env relayInfo preConsumedQuota store
    (trySubscription env relayInfo preConsumedQuota faults store) :=
    trySubscription_outcome fresh subscriptionRollback
  unfold newBillingSession
  cases normalizeBillingPreference relayInfo.billingPreference with
  | subscriptionOnly => exact subscription
  | walletOnly => exact wallet
  | walletFirst =>
    refine openOutcome_bind wallet (fun _ => rfl) fun _ => ?_
    dsimp only
    split_ifs
    · exact subscription
    · exact rfl
  | subscriptionFirst =>
    unfold subscriptionFirst
    dsimp only
    obtain ⟨hasSub, cont⟩ := checked_bind (onSubscriptions_readOnly
      (hasActive_readOnly relayInfo.userId env.activeCheckedAt))
      (onSubscriptions_terminates (hasActive_terminates _ _)) faults store
    rw [cont]
    rcases hasSub with reason | _ | _
    · exact rfl
    · exact wallet
    · refine openOutcome_bind subscription (fun _ => rfl) fun _ => ?_
      dsimp only
      split_ifs
      · obtain ⟨allowed, done⟩ := checked_bind
          (onSubscriptions_readOnly (allowOverflow_readOnly relayInfo.userId env.overflowCheckedAt))
          (onSubscriptions_terminates (allowOverflow_terminates _ _)) faults store
        rw [done]
        rcases allowed with reason | _ | _
        · exact rfl
        · exact rfl
        · exact wallet
      · exact rfl

end Open

/-- An error changes nothing. A session has one funding source and the token debited by what it
reports: zero only if trusted, or for a wallet asked for nothing. -/
theorem newBillingSession_allOrNothing (env : BillingEnv) (relayInfo : RelayInfo) (preConsumedQuota : Int)
    (store : BillingStore) (faults : Faults OpenStatement String) (nonnegative : 0 ≤ preConsumedQuota)
    (fresh : store.subscriptions.records.find? relayInfo.requestId = none)
    (walletRollback : faults (.wallet .rollbackToken) = none)
    (subscriptionRollback : faults (.subscription .rollbackToken) = none) :
    match newBillingSession env relayInfo preConsumedQuota faults store with
    | (.ok (.error _), after) => after = store
    | (.ok (.ok session), after) =>
      FundingDebited env relayInfo store after session.preConsumedQuota session.funding ∧
      (∀ id, after.accounts.tokenBalance id = store.accounts.tokenBalance id -
        tokenShare relayInfo id session.preConsumedQuota) ∧
      (session.preConsumedQuota = 0 → session.trusted = true ∨
        (session.funding.source = .wallet ∧ preConsumedQuota = 0))
    | (.error halt, _) => halt = .diverges := by
  have outcome := newBillingSession_outcome env nonnegative fresh walletRollback subscriptionRollback
  revert outcome
  rcases newBillingSession env relayInfo preConsumedQuota faults store with ⟨result, _⟩
  intro outcome
  rcases result with halt | apiErr | session
  · exact outcome
  · exact outcome
  · exact ⟨outcome.1.funding, outcome.1.token, outcome.2⟩

/-! ## A wallet of 100 and a token of 50 -/

def plainEnv : BillingEnv where
  accounts := ⟨false, fun _ => none, fun _ => none⟩
  subscriptions := ⟨utc, fun _ => none, fun _ => none, 10⟩
  quotaPerUnit := 500000
  formatQuota quota := toString quota
  dbTimestamp := 100
  activeCheckedAt := 100
  overflowCheckedAt := 100

def walletRequest : RelayInfo where
  requestId := "request"
  userId := 1
  tokenId := 2
  tokenKey := "key"
  tokenQuota := 50
  tokenUnlimited := false
  isPlayground := false
  forcePreConsume := false
  billingPreference := "wallet_only"

def walletStore : BillingStore where
  accounts := ⟨fun _ => 100, fun _ => 0, fun _ => ⟨50, 0⟩, fun _ => 0, fun _ => some 2⟩
  subscriptions := ⟨⟨[{ id := 1, title := "never reset" }], by decide⟩,
    ⟨[⟨1, 1, 1, 100, 20, 0, 1000, .active, 0, 0, true, .order, "", "", ""⟩], by decide⟩, Table.empty⟩

def opensTo (check : BillingSession → BillingStore → Bool) :
    Except (Halt String) (Except NewAPIError BillingSession) × BillingStore → Bool
  | (.ok (.ok session), after) => check session after
  | _ => false

theorem opensTo_session {check outcome} (opens : opensTo check outcome = true) :
    ∃ session after, outcome = (.ok (.ok session), after) ∧ check session after = true := by
  obtain ⟨_ | _ | session, after⟩ := outcome
  · cases opens
  · cases opens
  · exact ⟨session, after, rfl, opens⟩

theorem wallet_opens (holds : BillingSession → BillingStore → Prop) [∀ session after, Decidable (holds session after)]
    (opens : opensTo (fun session after => decide (holds session after))
    (newBillingSession plainEnv walletRequest 10 (fun _ => none) walletStore) = true) :
    ∃ session after, newBillingSession plainEnv walletRequest 10 (fun _ => none) walletStore =
      (.ok (.ok session), after) ∧ holds session after := by
  obtain ⟨session, after, ran, passes⟩ := opensTo_session opens
  exact ⟨session, after, ran, of_decide_eq_true passes⟩

theorem newBillingSession_allOrNothing_wallet : ∃ session after,
    newBillingSession plainEnv walletRequest 10 (fun _ => none) walletStore =
        (.ok (.ok session), after) ∧ session.preConsumedQuota = 10 ∧
      FundingDebited plainEnv walletRequest walletStore after session.preConsumedQuota session.funding := by
  have outcome := newBillingSession_allOrNothing plainEnv walletRequest 10 walletStore
    (fun _ => none) (by decide) rfl rfl rfl
  obtain ⟨session, after, ran, amount⟩ := wallet_opens (fun session _ =>
    session.preConsumedQuota = 10) (by decide +kernel)
  rw [ran] at outcome
  exact ⟨session, after, ran, amount, outcome.1⟩

end NewApi.Proof
