import NewApi.Service.FundingSource

namespace NewApi.Service
open Library Common Model Db

inductive ErrorCode where
  | modelPriceError
  | queryDataError
  | updateDataError
  | insufficientUserQuota
  | preConsumeTokenQuotaFailed
deriving DecidableEq

structure NewAPIError where
  message : String
  errorCode : ErrorCode
  statusCode : Nat
  skipRetry : Bool
  recordErrorLog : Option Bool

def newError (message : String) (errorCode : ErrorCode) : NewAPIError :=
  ⟨message, errorCode, 500, true, none⟩

def newForbiddenError (message : String) (errorCode : ErrorCode) : NewAPIError :=
  ⟨message, errorCode, 403, true, some false⟩

inductive BillingPreference where
  | subscriptionFirst | walletFirst | subscriptionOnly | walletOnly

def normalizeBillingPreference (pref : String) : BillingPreference :=
  match trimSpace pref with
  | "wallet_first" => .walletFirst
  | "subscription_only" => .subscriptionOnly
  | "wallet_only" => .walletOnly
  | _ => .subscriptionFirst

-- `tokenQuota` is the value of "token_quota" in the request context.
structure RelayInfo where
  requestId : String
  (userId tokenId : Int)
  tokenKey : String
  tokenQuota : Int
  (tokenUnlimited isPlayground forcePreConsume : Bool)
  billingPreference : String
  (userQuota finalPreConsumedQuota : Int := 0)
  billingSource : Option BillingSource := none
  (subscriptionId subscriptionPreConsumed subscriptionPostDelta subscriptionAmountTotal
    subscriptionAmountUsedAfterPreConsume subscriptionPlanId : Int := 0)
  subscriptionPlanTitle : String := ""

structure BillingSession where
  relayInfo : RelayInfo
  funding : FundingSource
  (preConsumedQuota tokenConsumed extraReserved : Int := 0)
  (trusted fundingSettled settled refunded : Bool := false)

inductive TokenStatement where
  | find | change
deriving DecidableEq

inductive SessionStatement where
  | token (statement : TokenStatement)
  | funding (statement : FundingStatement)
  | rollbackToken
  | rollbackFunding (statement : FundingStatement)
deriving DecidableEq

inductive OpenStatement where
  | userQuota
  | hasActive
  | allowOverflow
  | wallet (statement : SessionStatement)
  | subscription (statement : SessionStatement)

def getTrustQuota (env : BillingEnv) : Int := (10 * env.quotaPerUnit).num.tdiv (10 * env.quotaPerUnit).den

def preConsumeTokenQuota (env : BillingEnv) (relayInfo : RelayInfo) (quota : Int) :
    BillingDb TokenStatement Unit :=
  if quota < 0 then fail "quota 不能为负数！"
  else if relayInfo.isPlayground then pure ()
  else do
    let remainQuota ← onAccounts .find (getTokenByKey env.accounts relayInfo.tokenKey)
    if relayInfo.tokenUnlimited = false ∧ remainQuota < quota then
      fail ("token quota is not enough, token remain quota: " ++ env.formatQuota remainQuota ++
        ", need quota: " ++ env.formatQuota quota)
    else onAccounts .change (decreaseTokenQuota env.accounts relayInfo.tokenId quota)

namespace BillingSession
variable (env : BillingEnv) (s : BillingSession)

def syncRelayInfo : BillingSession :=
  match s.funding with
  | .wallet _ =>
    { s with relayInfo := { s.relayInfo with
        finalPreConsumedQuota := s.preConsumedQuota
        billingSource := some .wallet
        subscriptionId := 0
        subscriptionPreConsumed := 0 } }
  | .subscription sub =>
    { s with relayInfo := { s.relayInfo with
        finalPreConsumedQuota := s.preConsumedQuota
        billingSource := some .subscription
        subscriptionId := sub.subscriptionId
        subscriptionPreConsumed := sub.preConsumed + s.extraReserved
        subscriptionPostDelta := 0
        subscriptionAmountTotal := sub.amountTotal
        subscriptionAmountUsedAfterPreConsume := sub.amountUsedAfter + s.extraReserved
        subscriptionPlanId := sub.planId
        subscriptionPlanTitle := sub.planTitle } }

/-! ## Settle -/

def settleToken (delta : Int) : BillingDb SessionStatement (Except String Unit) :=
  if s.relayInfo.isPlayground then pure (.ok ())
  else if 0 < delta then
    attempt (onAccounts (.token .change) (decreaseTokenQuota env.accounts s.relayInfo.tokenId delta))
  else attempt (onAccounts (.token .change) (increaseTokenQuota env.accounts s.relayInfo.tokenId (-delta)))

def settleFunding (delta : Int) : BillingDb SessionStatement (Except String Unit) :=
  if s.fundingSettled then pure (.ok ())
  else attempt ((s.funding.settle env delta).within .funding)

def markSettled (delta : Int) : BillingSession :=
  { s with
    fundingSettled := true
    settled := true
    relayInfo := match s.funding with
      | .wallet _ => s.relayInfo
      | .subscription _ => { s.relayInfo with
          subscriptionPostDelta := s.relayInfo.subscriptionPostDelta + delta } }

def settle (actualQuota : Int) : BillingDb SessionStatement (Except String Unit × BillingSession) :=
  let delta := actualQuota - s.preConsumedQuota
  if s.settled then pure (.ok (), s)
  else if delta = 0 then pure (.ok (), { s with settled := true })
  else do
    let committed ← s.settleFunding env delta
    match committed with
    | .error reason => pure (.error reason, s)
    | .ok () =>
      let tokenErr ← s.settleToken env delta
      pure (tokenErr, s.markSettled delta)

/-! ## Refund -/

def needsRefundLocked : Bool :=
  if s.settled || s.refunded || s.fundingSettled then false
  else if 0 < s.tokenConsumed then true
  else match s.funding with
  | .wallet _ => false
  | .subscription sub => decide (0 < sub.preConsumed)

inductive RefundStage where
  | funding (attempt : Nat)
  | extraReserved
  | token
  | finished

structure RefundJob where
  tokenId : Int
  isPlayground : Bool
  (tokenConsumed extraReserved subscriptionId : Int)
  funding : FundingSource
  stage : RefundStage

def refund : Option RefundJob × BillingSession :=
  if s.settled || s.refunded || !s.needsRefundLocked then (none, s)
  else (some { tokenId := s.relayInfo.tokenId
               isPlayground := s.relayInfo.isPlayground
               tokenConsumed := s.tokenConsumed
               extraReserved := s.extraReserved
               subscriptionId := s.relayInfo.subscriptionId
               funding := s.funding
               stage := .funding 0 }, { s with refunded := true })

namespace RefundJob
variable (job : RefundJob)

def moveTo (stage : RefundStage) : RefundJob := { job with stage := stage }

def stepFunding (attempt : Nat) : BillingDb SessionStatement (Except String Unit × RefundJob) :=
  match job.funding with
  | .wallet _ => do
    let outcome ← Db.attempt ((job.funding.refund env).within .funding)
    pure (outcome, job.moveTo .extraReserved)
  | .subscription sub =>
    if sub.preConsumed ≤ 0 then pure (.ok (), job.moveTo .extraReserved)
    else do
      let outcome ← Db.attempt ((FundingSource.refundAttempt sub attempt).within .funding)
      match outcome with
      | .ok () => pure (outcome, job.moveTo .extraReserved)
      | .error _ =>
        if attempt + 1 < maxAttempts then pure (outcome, job.moveTo (.funding (attempt + 1)))
        else pure (outcome, job.moveTo .extraReserved)

def stepExtraReserved : BillingDb SessionStatement (Except String Unit × RefundJob) :=
  if 0 < job.extraReserved ∧ job.funding.source = .subscription ∧ 0 < job.subscriptionId then do
    let outcome ← attempt (onSubscriptions (fun label => .funding (.delta label))
      (postConsumeUserSubscriptionDelta job.subscriptionId (-job.extraReserved)))
    pure (outcome, job.moveTo .token)
  else pure (.ok (), job.moveTo .token)

def stepToken : BillingDb SessionStatement (Except String Unit × RefundJob) :=
  if 0 < job.tokenConsumed ∧ job.isPlayground = false then do
    let outcome ← attempt (onAccounts (.token .change)
      (increaseTokenQuota env.accounts job.tokenId job.tokenConsumed))
    pure (outcome, job.moveTo .finished)
  else pure (.ok (), job.moveTo .finished)

def step : BillingDb SessionStatement (Except String Unit × RefundJob) :=
  match job.stage with
  | .funding attempt => job.stepFunding env attempt
  | .extraReserved => job.stepExtraReserved
  | .token => job.stepToken env
  | .finished => pure (.ok (), job)

end RefundJob

/-! ## Reserve -/

def reserveFunding (delta : Int) : BillingDb FundingStatement (Except NewAPIError FundingSource) :=
  match s.funding with
  | .wallet funding => do
    let outcome ← attempt (onAccounts .wallet (decreaseUserQuota env.accounts funding.userId delta false))
    match outcome with
    | .error reason => pure (.error (newError reason .updateDataError))
    | .ok () => pure (.ok (.wallet { funding with consumed := funding.consumed + delta }))
  | .subscription funding => do
    let outcome ← attempt (onSubscriptions .delta
      (postConsumeUserSubscriptionDelta funding.subscriptionId delta))
    match outcome with
    | .error reason => pure (.error (newForbiddenError ("订阅额度不足或未配置订阅: " ++ reason) .insufficientUserQuota))
    | .ok () => pure (.ok (.subscription funding))

def rollbackFundingReserve (delta : Int) : FundingSource → BillingDb FundingStatement FundingSource
  | .wallet funding => do
    let outcome ← attempt (onAccounts .wallet (increaseUserQuota env.accounts funding.userId delta false))
    match outcome with
    | .error _ => pure (.wallet funding)
    | .ok () => pure (.wallet { funding with consumed := funding.consumed - delta })
  | .subscription funding => do
    let _ ← attempt (onSubscriptions .delta
      (postConsumeUserSubscriptionDelta funding.subscriptionId (-delta)))
    pure (.subscription funding)

def reserveToken (delta : Int) : BillingDb TokenStatement (Except NewAPIError Unit) :=
  if delta ≤ 0 ∨ s.relayInfo.isPlayground = true then pure (.ok ())
  else do
    let outcome ← attempt (preConsumeTokenQuota env s.relayInfo delta)
    match outcome with
    | .error reason => pure (.error (newForbiddenError reason .preConsumeTokenQuotaFailed))
    | .ok () => pure (.ok ())

def addReserved (delta : Int) (funding : FundingSource) : BillingSession :=
  syncRelayInfo { s with
    funding := funding
    preConsumedQuota := s.preConsumedQuota + delta
    tokenConsumed := s.tokenConsumed + delta
    extraReserved := s.extraReserved + delta }

def reserve (targetQuota : Int) : BillingDb SessionStatement (Except NewAPIError Unit × BillingSession) :=
  let delta := targetQuota - s.preConsumedQuota
  if s.settled ∨ s.refunded ∨ s.trusted ∨ targetQuota ≤ s.preConsumedQuota then pure (.ok (), s)
  else do
    let reserved ← (s.reserveFunding env delta).within .funding
    match reserved with
    | .error apiErr => pure (.error apiErr, s)
    | .ok funding =>
      let token ← (s.reserveToken env delta).within .token
      match token with
      | .error apiErr =>
        let funding ← (rollbackFundingReserve env delta funding).within .rollbackFunding
        pure (.error apiErr, { s with funding := funding })
      | .ok () => pure (.ok (), s.addReserved delta funding)

/-! ## Pre-consume -/

def shouldTrust : Bool :=
  if s.relayInfo.forcePreConsume then false
  else if getTrustQuota env ≤ 0 then false
  else if !s.relayInfo.tokenUnlimited && !decide (getTrustQuota env < s.relayInfo.tokenQuota) then false
  else match s.funding with
  | .wallet _ => decide (getTrustQuota env < s.relayInfo.userQuota)
  | .subscription _ => false

def preConsumeError (reason : String) : NewAPIError :=
  if containsText reason "no active subscription" || containsText reason "subscription quota insufficient" then
    newForbiddenError ("订阅额度不足或未配置订阅: " ++ reason) .insufficientUserQuota
  else newError reason .updateDataError

def rollbackToken (tokenConsumed : Int) : BillingDb SessionStatement Unit :=
  if 0 < tokenConsumed ∧ s.relayInfo.isPlayground = false then do
    let _ ← attempt (onAccounts .rollbackToken
      (increaseTokenQuota env.accounts s.relayInfo.tokenId tokenConsumed))
    pure ()
  else pure ()

def preConsumeToken (quota : Int) : BillingDb SessionStatement (Except String Unit) :=
  if 0 < quota then attempt ((preConsumeTokenQuota env s.relayInfo quota).within .token)
  else pure (.ok ())

def preConsume (quota : Int) : BillingDb SessionStatement (Except NewAPIError BillingSession) := do
  let trusted := s.shouldTrust env
  let effectiveQuota := if trusted then 0 else quota
  let token ← s.preConsumeToken env effectiveQuota
  match token with
  | .error reason => pure (.error (newForbiddenError reason .preConsumeTokenQuotaFailed))
  | .ok () =>
    let tokenConsumed := if 0 < effectiveQuota then effectiveQuota else 0
    let charged ← attempt ((s.funding.preConsume env effectiveQuota).within .funding)
    match charged with
    | .error reason =>
      s.rollbackToken env tokenConsumed
      pure (.error (preConsumeError reason))
    | .ok funding =>
      pure (.ok (syncRelayInfo { s with
        funding := funding
        trusted := trusted
        tokenConsumed := tokenConsumed
        preConsumedQuota := effectiveQuota }))

end BillingSession

/-! ## Opening a session -/

def walletSession (relayInfo : RelayInfo) : BillingSession :=
  { relayInfo := relayInfo, funding := .wallet ⟨relayInfo.userId, 0⟩ }

def subscriptionSession (relayInfo : RelayInfo) (subConsume : Int) : BillingSession :=
  let funding : SubscriptionFunding :=
    { requestId := relayInfo.requestId, userId := relayInfo.userId, amount := subConsume }
  { relayInfo := relayInfo, funding := .subscription funding }

section Open
variable (env : BillingEnv) (relayInfo : RelayInfo) (preConsumedQuota : Int)

def tryWallet : BillingDb OpenStatement (Except NewAPIError BillingSession) := do
  let answer ← attempt (onAccounts .userQuota (getUserQuota env.accounts relayInfo.userId))
  match answer with
  | .error reason => pure (.error (newError reason .queryDataError))
  | .ok userQuota =>
    if userQuota ≤ 0 then
      pure (.error (newForbiddenError ("用户额度不足, 剩余额度: " ++ env.formatQuota userQuota)
        .insufficientUserQuota))
    else if userQuota - preConsumedQuota < 0 then
      pure (.error (newForbiddenError ("预扣费额度失败, 用户剩余额度: " ++ env.formatQuota userQuota ++
        ", 需要预扣费额度: " ++ env.formatQuota preConsumedQuota) .insufficientUserQuota))
    else
      let session := walletSession { relayInfo with userQuota := userQuota }
      (session.preConsume env preConsumedQuota).within .wallet

def trySubscription : BillingDb OpenStatement (Except NewAPIError BillingSession) :=
  let subConsume := if preConsumedQuota ≤ 0 then 1 else preConsumedQuota
  ((subscriptionSession relayInfo subConsume).preConsume env subConsume).within .subscription

def subscriptionFirst : BillingDb OpenStatement (Except NewAPIError BillingSession) := do
  let hasSub ← attempt (onSubscriptions (fun _ => .hasActive)
    (hasActiveUserSubscription relayInfo.userId env.activeCheckedAt))
  match hasSub with
  | .error reason => pure (.error (newError reason .queryDataError))
  | .ok false => tryWallet env relayInfo preConsumedQuota
  | .ok true =>
    let session ← trySubscription env relayInfo preConsumedQuota
    match session with
    | .ok session => pure (.ok session)
    | .error apiErr =>
      if apiErr.errorCode = .insufficientUserQuota then do
        let allowOverflow ← attempt (onSubscriptions (fun _ => .allowOverflow)
          (userActiveSubscriptionsAllowWalletOverflow relayInfo.userId env.overflowCheckedAt))
        match allowOverflow with
        | .error reason => pure (.error (newError reason .queryDataError))
        | .ok true => tryWallet env relayInfo preConsumedQuota
        | .ok false => pure (.error apiErr)
      else pure (.error apiErr)

-- A failed wallet attempt leaves `UserQuota` set, which the subscription path does not read.
def walletFirst : BillingDb OpenStatement (Except NewAPIError BillingSession) := do
  let session ← tryWallet env relayInfo preConsumedQuota
  match session with
  | .ok session => pure (.ok session)
  | .error apiErr =>
    if apiErr.errorCode = .insufficientUserQuota then trySubscription env relayInfo preConsumedQuota
    else pure (.error apiErr)

def newBillingSession : BillingDb OpenStatement (Except NewAPIError BillingSession) :=
  match normalizeBillingPreference relayInfo.billingPreference with
  | .subscriptionOnly => trySubscription env relayInfo preConsumedQuota
  | .walletOnly => tryWallet env relayInfo preConsumedQuota
  | .walletFirst => walletFirst env relayInfo preConsumedQuota
  | .subscriptionFirst => subscriptionFirst env relayInfo preConsumedQuota

def preConsumeBilling : BillingDb OpenStatement (Except NewAPIError BillingSession) :=
  if preConsumedQuota < 0 then
    pure (.error ⟨"pre-consume quota cannot be negative: " ++ toString preConsumedQuota, .modelPriceError,
      400, true, none⟩)
  else newBillingSession env relayInfo preConsumedQuota

end Open
end NewApi.Service
