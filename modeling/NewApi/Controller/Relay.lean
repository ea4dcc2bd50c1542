import NewApi.Library.Run
import NewApi.Relay.Attempt

/-!
# The retry loop

A request is priced once, for the group of its first channel. Then channels, maybe of other groups,
are tried until one answers or an error is not to be retried.
-/

namespace NewApi.Controller
open Library Relay

/-- `CacheGetRandomSatisfiedChannel`: the group it selects, if the token leaves that open, and the
count of retries it sets when it changes the group. -/
structure Selection where
  autoGroup : Option String := none
  (retryReset resetNextTry : Bool := false)
  failed : Option NewAPIError := none

structure AttemptLog where
  sent : Option SentRequest
  written : Bool

structure RelayState where
  ctx : RelayContext
  info : RelayInfo
  retry : Nat := 0
  resetNextTry : Bool := false
  attempts : List AttemptLog := []
  outcome : Option (Except NewAPIError TextQuotaSummary) := none

structure RelayConfig where
  env : RelayEnv
  policy : RetryPolicy
  passThroughRequestEnabled : Bool := false

def genRelayInfo (request : RelayRequest) : RelayInfo where
  relayFormat := request.relayFormat
  requestConversionChain := [request.relayFormat]
  originModelName := request.originModelName
  userGroup := request.userGroup
  usingGroup := request.usingGroup
  acceptUnsetRatioModel := request.acceptUnsetRatioModel
  estimatePromptTokens := request.promptTokens
  builtInTools := if request.relayFormat = .openaiResponses then some (newBuiltInTools request.tools) else none

variable (config : RelayConfig) (request : RelayRequest)

def startRelay (autoGroup : Option String) : Except PriceError RelayState := do
  let ctx : RelayContext := { autoGroup := autoGroup, requestInput := request.input }
  let (price, info) ← modelPriceHelper config.env ctx (genRelayInfo request) request.promptTokens request.tokens
  let taken := if price.freeModel then 0 else request.preConsumed price.quotaToPreConsume
  return { ctx := ctx, info := { info with finalPreConsumedQuota := taken } }

def getChannel (env : RelayEnv) (selection : Selection) (state : RelayState) : RelayState × Option NewAPIError :=
  match state.info.channelMeta with
  | none => (state, none)
  | some _ =>
    let ctx := { state.ctx with autoGroup := selection.autoGroup.or state.ctx.autoGroup }
    let (info, group) := handleGroupRatio env ctx state.info
    ({ state with
        ctx := ctx
        info := { info with priceData := { info.priceData with groupRatioInfo := group } }
        retry := if selection.retryReset then 0 else state.retry
        resetNextTry := state.resetNextTry || selection.resetNextTry }, selection.failed)

def relayHandler (passThroughRequestEnabled : Bool) (request : RelayRequest) :
    Attempt → RelayContext → RelayInfo → Attempted :=
  match request.relayFormat with
  | .claude => claudeHelper passThroughRequestEnabled request
  | .gemini => geminiHelper passThroughRequestEnabled request
  | .openaiResponses => responsesHelper passThroughRequestEnabled request
  | _ => textHelper passThroughRequestEnabled request

def increaseRetry (policy : RetryPolicy) (err : NewAPIError) (state : RelayState) : RelayState :=
  if state.resetNextTry then { state with resetNextTry := false }
  else if state.retry + 1 ≤ policy.retryTimes then { state with retry := state.retry + 1 }
  else { state with retry := state.retry + 1, outcome := some (.error err) }

def afterAttempt (config : RelayConfig) (attempted : Attempted) (state : RelayState) : RelayState :=
  let state := { state with
    ctx := attempted.ctx
    info := attempted.info
    attempts := state.attempts ++ [⟨attempted.sent, attempted.written⟩] }
  match attempted.result with
  | .ok usage => { state with outcome := some (.ok (postTextConsumeQuota config.env attempted.ctx attempted.info (some usage))) }
  | .error err =>
    let err := normalizeViolationFeeError err
    if shouldRetry config.policy err (config.policy.retryTimes - state.retry) then increaseRetry config.policy err state
    else { state with outcome := some (.error err) }

def relayStep (state : RelayState) (input : Selection × Attempt) : RelayState :=
  match state.outcome with
  | some _ => state
  | none =>
    match getChannel config.env input.1 state with
    | (state, some err) => { state with outcome := some (.error err) }
    | (state, none) =>
      afterAttempt config (relayHandler config.passThroughRequestEnabled request input.2 state.ctx state.info) state

def relay (start : RelayState) (inputs : List (Selection × Attempt)) : RelayState :=
  run (relayStep config request) start inputs

end NewApi.Controller
