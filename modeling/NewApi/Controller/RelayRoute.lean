import NewApi.Library.Run
import NewApi.Relay.Retry
import NewApi.Service.ChannelSelect

/-!
# The channels of the retry loop

The loop of `Relay` as far as it decides whether and which channel is tried next. What the handlers do is an input.
-/

namespace NewApi.Controller
open Library Model Relay Service

structure RouteConfig where
  policy : RetryPolicy
  autoGroups : List String
  userAutoGroups : String → List String

def RouteConfig.settings (config : RouteConfig) : SelectSettings :=
    ⟨config.policy.retryTimes, config.autoGroups, config.userAutoGroups⟩

structure RouteState where
  ctx : AutoContext
  param : RetryParam
  index : Nat
  channel : Channel
  channelMeta : Bool := false
  attempts : List (Nat × Channel) := []
  stopped : Bool := false

structure RouteInput where
  pick : String → Nat → Except String (Option Channel)
  (setupFails bodyFails : Bool := false)
  channelMeta : Bool := true
  result : Option NewAPIError

namespace RouteState
variable (config : RouteConfig) (input : RouteInput) (state : RouteState)

def getChannel : RouteState × Bool :=
  if state.channelMeta then
    let selected := cacheGetRandomSatisfiedChannel config.settings input.pick state.ctx state.param
    let state := { state with ctx := selected.ctx, param := selected.param }
    match selected.channel.toOption.join with
    | none => (state, false)
    | some channel => ({ state with index := selected.index, channel := channel }, !input.setupFails)
  else (state, true)

def attempt : RouteState :=
  let state := { state with
    attempts := state.attempts ++ [(state.index, state.channel)]
    channelMeta := state.channelMeta || input.channelMeta }
  match input.result with
  | none => { state with stopped := true }
  | some err =>
    if shouldRetry config.policy (normalizeViolationFeeError err)
      ((config.policy.retryTimes : Int) - state.param.retry) then
      let param := state.param.increaseRetry
      { state with param := param, stopped := config.policy.retryTimes < param.retry }
    else { state with stopped := true }

end RouteState

def routeTurn (config : RouteConfig) (state : RouteState) (input : RouteInput) : RouteState :=
  if state.stopped then state
  else
    match state.getChannel config input with
    | (state, false) => { state with stopped := true }
    | (state, true) => if input.bodyFails then { state with stopped := true } else state.attempt config input

end NewApi.Controller
