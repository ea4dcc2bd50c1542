import NewApi.Common.QuotaMath
import NewApi.Service.BillingSession

/-!
# Billing of realtime sessions

Each response is charged when it is done, and the summed usage is settled through the billing
session in the end. The messages of client and upstream come in one list, as they are read, with the
tokens counted for them. Consume logs and usage counters are left out.
-/

namespace NewApi.Service
open Library Common Model

structure InputTokenDetails where
  (cachedTokens textTokens audioTokens : Int := 0)
deriving DecidableEq

structure OutputTokenDetails where
  (textTokens audioTokens : Int := 0)
deriving DecidableEq

structure RealtimeUsage where
  (totalTokens inputTokens outputTokens : Int := 0)
  inputTokenDetails : InputTokenDetails := {}
  outputTokenDetails : OutputTokenDetails := {}
deriving DecidableEq

def RealtimeUsage.add (sum usage : RealtimeUsage) : RealtimeUsage where
  totalTokens := sum.totalTokens + usage.totalTokens
  inputTokens := sum.inputTokens + usage.inputTokens
  outputTokens := sum.outputTokens + usage.outputTokens
  inputTokenDetails :=
    ⟨sum.inputTokenDetails.cachedTokens + usage.inputTokenDetails.cachedTokens,
      sum.inputTokenDetails.textTokens + usage.inputTokenDetails.textTokens,
      sum.inputTokenDetails.audioTokens + usage.inputTokenDetails.audioTokens⟩
  outputTokenDetails :=
    ⟨sum.outputTokenDetails.textTokens + usage.outputTokenDetails.textTokens,
      sum.outputTokenDetails.audioTokens + usage.outputTokenDetails.audioTokens⟩

def RealtimeUsage.addInput (usage : RealtimeUsage) (textToken audioToken : Int) : RealtimeUsage :=
  { usage with
    totalTokens := usage.totalTokens + (textToken + audioToken)
    inputTokens := usage.inputTokens + (textToken + audioToken)
    inputTokenDetails := { usage.inputTokenDetails with
      textTokens := usage.inputTokenDetails.textTokens + textToken
      audioTokens := usage.inputTokenDetails.audioTokens + audioToken } }

def RealtimeUsage.addOutput (usage : RealtimeUsage) (textToken audioToken : Int) : RealtimeUsage :=
  { usage with
    totalTokens := usage.totalTokens + (textToken + audioToken)
    outputTokens := usage.outputTokens + (textToken + audioToken)
    outputTokenDetails := ⟨usage.outputTokenDetails.textTokens + textToken,
      usage.outputTokenDetails.audioTokens + audioToken⟩ }

structure QuotaInfo where
  inputDetails : InputTokenDetails
  outputDetails : OutputTokenDetails
  modelName : String
  usePrice : Bool
  modelPrice : Rat := 0
  (modelRatio groupRatio : Rat)

structure RealtimeEnv where
  billing : BillingEnv
  (completionRatio audioRatio audioCompletionRatio modelRatio groupRatio : String → Rat)
  groupGroupRatio : String → String → Option Rat
  tokenUnlimited : String → Bool

def calculateAudioQuota (env : RealtimeEnv) (info : QuotaInfo) : Int × Option QuotaClamp :=
  if info.usePrice then quotaFromDecimalChecked (info.modelPrice * env.billing.quotaPerUnit * info.groupRatio)
  else
    let audioRatio := env.audioRatio info.modelName
    let ratio := info.groupRatio * info.modelRatio
    let quota := (info.inputDetails.textTokens +
      info.outputDetails.textTokens * env.completionRatio info.modelName +
      info.inputDetails.audioTokens * audioRatio +
      info.outputDetails.audioTokens * audioRatio * env.audioCompletionRatio info.modelName) * ratio
    quotaFromDecimalChecked (if ratio ≠ 0 ∧ quota ≤ 0 then 1 else quota)

structure PriceData where
  (modelPrice modelRatio groupRatio : Rat)
  usePrice : Bool

/-- `autoGroup` is from the request context, `tieredSettle` what `TryTieredSettle` makes of a usage: none without a
tiered snapshot. -/
structure RealtimeInfo where
  usePrice : Bool
  (originModelName upstreamModelName usingGroup userGroup : String)
  autoGroup : Option String
  priceData : PriceData
  tieredSettle : RealtimeUsage → Option Int
  quotaClamp : Option QuotaClamp := none

def noteQuotaClamp (info : RealtimeInfo) (clamp : Option QuotaClamp) : RealtimeInfo :=
  { info with quotaClamp := info.quotaClamp.or clamp }

inductive ConsumeStatement where
  | userQuota
  | findToken
  | wallet
  | subscription (statement : DeltaStatement)
  | token
deriving DecidableEq

section Consume
variable (env : BillingEnv) (relayInfo : RelayInfo) (quota : Int)

def consumeFunding : BillingDb ConsumeStatement (Except String Unit × RelayInfo) :=
  if relayInfo.billingSource = some .subscription then
    if relayInfo.subscriptionId = 0 then pure (.error "subscription id is missing", relayInfo)
    else if quota = 0 then pure (.ok (), relayInfo)
    else do
      let charged ← Db.attempt
        (onSubscriptions .subscription (postConsumeUserSubscriptionDelta relayInfo.subscriptionId quota))
      match charged with
      | .error reason => pure (.error reason, relayInfo)
      | .ok () => pure (.ok (), { relayInfo with subscriptionPostDelta := relayInfo.subscriptionPostDelta + quota })
  else do
    let charged ← Db.attempt <| onAccounts .wallet <|
      if 0 < quota then decreaseUserQuota env.accounts relayInfo.userId quota false
      else increaseUserQuota env.accounts relayInfo.userId (-quota) false
    pure (charged, relayInfo)

def consumeToken : BillingDb ConsumeStatement (Except String Unit) :=
  if relayInfo.isPlayground then pure (.ok ())
  else Db.attempt <| onAccounts .token <|
    if 0 < quota then decreaseTokenQuota env.accounts relayInfo.tokenId quota
    else increaseTokenQuota env.accounts relayInfo.tokenId (-quota)

def postConsumeQuota : BillingDb ConsumeStatement (Except String Unit × RelayInfo) := do
  let (charged, relayInfo) ← consumeFunding env relayInfo quota
  match charged with
  | .error reason => pure (.error reason, relayInfo)
  | .ok () =>
    let outcome ← consumeToken env relayInfo quota
    pure (outcome, relayInfo)

end Consume

structure RealtimeState where
  info : RealtimeInfo
  session : BillingSession
  (usage localUsage sumUsage : RealtimeUsage := {})
  errors : List String := []

namespace RealtimeState
variable (env : RealtimeEnv) (state : RealtimeState)

def chooseGroup : RealtimeInfo × Rat :=
  let usingGroup := state.info.autoGroup.getD state.info.usingGroup
  let groupRatio := env.groupRatio usingGroup
  ({ state.info with usingGroup := usingGroup }, (env.groupGroupRatio state.info.userGroup usingGroup).getD groupRatio)

def wssQuota (usage : RealtimeUsage) : Int × Option QuotaClamp :=
  calculateAudioQuota env
    { inputDetails := usage.inputTokenDetails
      outputDetails := usage.outputTokenDetails
      modelName := state.info.originModelName
      usePrice := state.info.usePrice
      modelRatio := env.modelRatio state.info.originModelName
      groupRatio := (state.chooseGroup env).2 }

def trimmedKey : String :=
  if "sk-".toList.isPrefixOf state.session.relayInfo.tokenKey.toList then
    String.ofList (state.session.relayInfo.tokenKey.toList.drop 3)
  else state.session.relayInfo.tokenKey

def preWssConsumeQuota (usage : RealtimeUsage) : BillingDb ConsumeStatement (Except String Unit × RealtimeState) :=
  if state.info.usePrice then pure (.ok (), state)
  else do
    let found ← Db.attempt (onAccounts .userQuota (getUserQuota env.billing.accounts state.session.relayInfo.userId))
    match found with
    | .error reason => pure (.error reason, state)
    | .ok userQuota =>
      let token ← Db.attempt (onAccounts .findToken (getTokenByKey env.billing.accounts state.trimmedKey))
      match token with
      | .error reason => pure (.error reason, state)
      | .ok remainQuota =>
        let (quota, clamp) := state.wssQuota env usage
        let state := { state with info := noteQuotaClamp (state.chooseGroup env).1 clamp }
        if userQuota < quota then
          pure (.error ("user quota is not enough, user quota: " ++ env.billing.formatQuota userQuota ++
            ", need quota: " ++ env.billing.formatQuota quota), state)
        else if env.tokenUnlimited state.trimmedKey = false ∧ remainQuota < quota then
          pure (.error ("token quota is not enough, token remain quota: " ++ env.billing.formatQuota remainQuota ++
            ", need quota: " ++ env.billing.formatQuota quota), state)
        else do
          let (outcome, relayInfo) ← postConsumeQuota env.billing state.session.relayInfo quota
          pure (outcome, { state with session := { state.session with relayInfo := relayInfo } })

def preConsumeUsage (usage : RealtimeUsage) : BillingDb ConsumeStatement (Except String Unit × RealtimeState) :=
  preWssConsumeQuota env { state with sumUsage := state.sumUsage.add usage } usage

end RealtimeState

inductive RealtimeMessage where
  | client (counted : Except String (Int × Int))
  | responseDone (usage : Option RealtimeUsage) (counted : Except String (Int × Int))
  | session
  | target (counted : Except String (Int × Int))

inductive RealtimeStatement where
  | message (index : Nat) (statement : ConsumeStatement)
  | usage (statement : ConsumeStatement)
  | localUsage (statement : ConsumeStatement)
  | settle (statement : SessionStatement)
deriving DecidableEq

namespace RealtimeState
variable (env : RealtimeEnv)

variable (state : RealtimeState)

def noteError (outcome : Except String Unit) : RealtimeState :=
  match outcome with
  | .ok () => state
  | .error reason => { state with errors := state.errors ++ [reason] }

def handleMessage (message : RealtimeMessage) :
    BillingDb ConsumeStatement (Except String Unit × RealtimeState) :=
  match message with
  | .client counted =>
    match counted with
    | .error reason => pure (.error ("error counting text token: " ++ reason), state)
    | .ok (textToken, audioToken) =>
        pure (.ok (), { state with localUsage := state.localUsage.addInput textToken audioToken })
  | .responseDone (some usage) _ => do
    let state := { state with usage := state.usage.add usage }
    let (outcome, state) ← state.preConsumeUsage env state.usage
    match outcome with
    | .error reason => pure (.error ("error consume usage: " ++ reason), state)
    | .ok () => pure (.ok (), { state with usage := {}, localUsage := {} })
  | .responseDone none counted =>
    match counted with
    | .error reason => pure (.error ("error counting text token: " ++ reason), state)
    | .ok (textToken, audioToken) => do
      let state := { state with localUsage := state.localUsage.addInput textToken audioToken }
      let (outcome, state) ← state.preConsumeUsage env state.localUsage
      match outcome with
      | .error reason => pure (.error ("error consume usage: " ++ reason), state)
      | .ok () => pure (.ok (), { state with localUsage := {} })
  | .session => pure (.ok (), state)
  | .target counted =>
    match counted with
    | .error reason => pure (.error ("error counting text token: " ++ reason), state)
    | .ok (textToken, audioToken) =>
        pure (.ok (), { state with localUsage := state.localUsage.addOutput textToken audioToken })

def readMessages (index : Nat) (state : RealtimeState) :
    List RealtimeMessage → BillingDb RealtimeStatement RealtimeState
  | [] => pure state
  | message :: rest => do
    let (outcome, state) ← (handleMessage env state message).within (.message index)
    match outcome with
    | .error reason => pure (state.noteError (.error reason))
    | .ok () => readMessages (index + 1) state rest

def chargeRest (usage : RealtimeUsage) : BillingDb ConsumeStatement RealtimeState :=
  if usage.totalTokens = 0 then pure state
  else do
    let (outcome, state) ← state.preConsumeUsage env usage
    pure (state.noteError outcome)

def openaiRealtimeHandler (messages : List RealtimeMessage) :
    BillingDb RealtimeStatement RealtimeState := do
  let state ← readMessages env 0 state messages
  let state ← (state.chargeRest env state.usage).within .usage
  (state.chargeRest env state.localUsage).within .localUsage

def finalQuotaInfo (usage : RealtimeUsage) : QuotaInfo where
  inputDetails := usage.inputTokenDetails
  outputDetails := usage.outputTokenDetails
  modelName := state.info.upstreamModelName
  usePrice := state.info.priceData.usePrice
  modelRatio := state.info.priceData.modelRatio
  groupRatio := state.info.priceData.groupRatio

def finalQuota (usage : RealtimeUsage) : Int :=
  if usage.totalTokens = 0 then 0
  else (state.info.tieredSettle usage).getD (calculateAudioQuota env (state.finalQuotaInfo usage)).1

def postWssConsumeQuota (usage : RealtimeUsage) :
    BillingDb RealtimeStatement RealtimeState := do
  let clamp := (calculateAudioQuota env (state.finalQuotaInfo usage)).2
  let (outcome, session) ← (state.session.settle env.billing (state.finalQuota env usage)).within .settle
  pure ({ state with info := noteQuotaClamp state.info clamp, session := session }.noteError outcome)

def wssHelper (messages : List RealtimeMessage) : BillingDb RealtimeStatement RealtimeState := do
  let state ← openaiRealtimeHandler env state messages
  postWssConsumeQuota env state state.sumUsage

end RealtimeState
end NewApi.Service
