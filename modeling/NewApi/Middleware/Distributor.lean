import NewApi.Model.ChannelStore
import NewApi.Service.ChannelSelect

/-!
# Distribution of requests to channels

The middleware selects a channel before the handler of a request runs. On a retry the handler selects the next channel
itself.
-/

namespace NewApi.Middleware
open Library Common Model Service

structure RequestContext extends AutoContext where
  tokenSpecificChannelId : Option String := none
  tokenModelLimitEnabled : Bool := false
  tokenModelLimit : Option (List String) := none
  (usingGroup originalModel : String := "")
  channelId : Option ℕ+ := none
  channelIsMultiKey : Bool := false
  channelMultiKeyIndex : Option Nat := none
  (channelKey channelBaseUrl : Option String := none)

structure ModelRequest where
  path : String
  modelRequest : Except String (String × Bool)
  playgroundGroup : Except String String := .ok ""

structure DistributorEnv where
  channels : ChannelEnv := {}
  settings : SelectSettings
  channelBaseURLs : List String := []
  atoi : String → Option Int := fun _ => none
  groupUsable : String → String → Bool := fun _ _ => false
  preferredChannel : String → String → Option ℕ+ := fun _ _ => none

inductive DistributorError where
  | invalidRequest (error : String)
  | invalidChannelId
  | channelDisabled
  | tokenNoModelAccess
  | tokenModelForbidden (model : String)
  | modelNameRequired
  | invalidPlayground (error : String)
  | groupAccessDenied
  | getChannelFailed (group model error : String)
  | noAvailableChannel (group model : String)

section Distribute
variable (env : DistributorEnv) (store : ChannelStore)

def getBaseURL (channel : Channel) : String :=
  match channel.baseURL with
  | none => ""
  | some url => if url = "" then (env.channelBaseURLs[channel.type.toNat]?).getD "" else url

variable (ctx : RequestContext)

def setupContextForSelectedChannel (channel : Option Channel) (modelName : String) (draw : Nat) :
    RequestContext × Option String :=
  let ctx := { ctx with originalModel := modelName }
  match channel with
  | none => (ctx, some "channel is nil")
  | some channel =>
    let ctx := { ctx with channelId := some channel.id }
    match channel.getNextEnabledKey env.channels (store.pollingIndex channel.id) draw with
    | .error err => (ctx, some err)
    | .ok selected =>
      ({ ctx with
          channelIsMultiKey := channel.channelInfo.isMultiKey
          channelMultiKeyIndex := if channel.channelInfo.isMultiKey then some
            selected.index else ctx.channelMultiKeyIndex
          channelKey := some selected.key
          channelBaseUrl := some (getBaseURL env channel) }, none)

def channelSupportsRequestPath (channel : Channel) (requestPath model : String) : Bool :=
  channel.type ≠ channelTypeAdvancedCustom || env.channels.supportsPathForModel channel.otherSettings requestPath model

def specificChannel (text : String) : Except DistributorError Channel :=
  match env.atoi text with
  | none => .error .invalidChannelId
  | some id =>
    if positive : 0 < id.toNat then
      match store.getChannelById ⟨id.toNat, positive⟩ with
      | .error _ => .error .invalidChannelId
      | .ok channel => if channel.status = channelStatusEnabled then .ok channel else .error .channelDisabled
    else .error .invalidChannelId

def checkModelLimit (model : String) : Except DistributorError Unit :=
  if ctx.tokenModelLimitEnabled then
    match ctx.tokenModelLimit with
    | none => .error .tokenNoModelAccess
    | some limit => if formatMatchingModelName model ∈ limit then .ok () else .error (.tokenModelForbidden model)
  else .ok ()

def playgroundUsingGroup (request : ModelRequest) : Except DistributorError String :=
  if hasPrefix request.path "/pg/chat/completions" then
    match request.playgroundGroup with
    | .error err => .error (.invalidPlayground err)
    | .ok group =>
      if group = "" then .ok ctx.usingGroup
      else if !env.groupUsable ctx.usingGroup group && group ≠ ctx.usingGroup then .error .groupAccessDenied
      else .ok group
  else .ok ctx.usingGroup

def affinityChannel (path model : String) : Option (Channel × RequestContext) := do
  let id ← env.preferredChannel model ctx.usingGroup
  let preferred ← (store.cacheGetChannel id).toOption
  if preferred.status = channelStatusEnabled ∧ channelSupportsRequestPath env preferred path model = true then
    if ctx.usingGroup = "auto" then
      let group ← (env.settings.userAutoGroups ctx.userGroup).find? fun group =>
        store.isChannelEnabledForGroupModel group model preferred.id
      return (preferred, { ctx with autoGroup := some group })
    else if store.isChannelEnabledForGroupModel ctx.usingGroup model preferred.id then return (preferred, ctx)
    else none
  else none

def randomChannel (path model : String) (draw : Nat) : Except DistributorError (Channel × RequestContext) :=
  let pick group retry := store.randomSatisfiedChannel env.channels group model retry path draw
  let selected := cacheGetRandomSatisfiedChannel env.settings pick ctx.toAutoContext
    { tokenGroup := ctx.usingGroup, modelName := model, requestPath := path }
  let ctx := { ctx with toAutoContext := selected.ctx }
  match selected.channel with
  | .error err =>
    let group := if ctx.usingGroup = "auto" then s!"auto({selected.group})" else ctx.usingGroup
    .error (.getChannelFailed group model err)
  | .ok none => .error (.noAvailableChannel ctx.usingGroup model)
  | .ok (some channel) => .ok (channel, ctx)

def selectChannel (request : ModelRequest) (model : String) (draw : Nat) :
    Except DistributorError (Channel × RequestContext) := do
  if model = "" then throw .modelNameRequired
  let group ← playgroundUsingGroup env ctx request
  let ctx := { ctx with usingGroup := group }
  match affinityChannel env store ctx request.path model with
  | some found => return found
  | none => randomChannel env store ctx request.path model draw

def distribute (request : ModelRequest) (draw : Nat) : Except DistributorError (Option Channel × RequestContext) := do
  let (model, shouldSelectChannel) ← match request.modelRequest with
    | .error err => throw (.invalidRequest err)
    | .ok found => pure found
  let (channel, ctx) ← match ctx.tokenSpecificChannelId with
    | some text => do
      let channel ← specificChannel env store text
      pure (some channel, ctx)
    | none => do
      checkModelLimit ctx model
      if shouldSelectChannel then
        let (channel, ctx) ← selectChannel env store ctx request model draw
        pure (some channel, ctx)
      else pure (none, ctx)
  return (channel, (setupContextForSelectedChannel env store ctx channel model draw).1)

def nextChannel (param : RetryParam) (draw : Nat) : Except String Channel × RequestContext × RetryParam :=
  let pick group retry := store.randomSatisfiedChannel env.channels group param.modelName retry param.requestPath draw
  let selected := cacheGetRandomSatisfiedChannel env.settings pick ctx.toAutoContext param
  let ctx := { ctx with toAutoContext := selected.ctx }
  match selected.channel with
  | .error err => (.error s!"获取分组 {selected.group} 下模型 {param.modelName} 的可用渠道失败（retry）: {err}", ctx, selected.param)
  | .ok none => (.error s!"分组 {selected.group} 下模型 {param.modelName} 的可用渠道不存在（retry）", ctx, selected.param)
  | .ok (some channel) =>
    match setupContextForSelectedChannel env store ctx (some channel) param.modelName draw with
    | (ctx, some err) => (.error err, ctx, selected.param)
    | (ctx, none) => (.ok channel, ctx, selected.param)

end Distribute

structure RetryTurn where
  channelMeta : Bool
  store : ChannelStore
  draw : Nat

def handledTurns (env : DistributorEnv) : Channel → RequestContext → RetryParam → List RetryTurn →
    List (Channel × RequestContext)
  | _, _, _, [] => []
  | channel, ctx, param, turn :: rest =>
    let param := param.increaseRetry
    if turn.channelMeta then
      match nextChannel env turn.store ctx param turn.draw with
      | (.error _, _, _) => []
      | (.ok next, ctx, param) => (next, ctx) :: handledTurns env next ctx param rest
    else (channel, ctx) :: handledTurns env channel ctx param rest

def handled (env : DistributorEnv) (store : ChannelStore) (ctx : RequestContext)
    (request : ModelRequest) (draw : Nat) (tokenGroup : String)
    (turns : List RetryTurn) : List (Channel × RequestContext) :=
  match distribute env store ctx request draw with
  | .ok (some channel, ctx) =>
    (channel, ctx) :: handledTurns env channel ctx
      { tokenGroup := tokenGroup, modelName := ctx.originalModel, requestPath := request.path } turns
  | _ => []

end NewApi.Middleware
