import NewApi.Common.Float64
import NewApi.Common.QuotaMath
import NewApi.Relay.Usage

/-!
# Prices of a relayed request

Prices are looked up once, before the first attempt, and the ratio of the group again for every
further one. The snapshot of a billing expression is taken with the prices.
-/

namespace NewApi.Relay
open Common

inductive RelayFormat where
  | openai
  | claude
  | gemini
  | openaiResponses
  | openaiResponsesCompaction
  | openaiAudio
  | openaiImage
  | openaiRealtime
  | rerank
  | embedding
  | task
  | mjProxy
deriving DecidableEq

inductive ExprVar where
  | p | c | len | cr | cc | cc1h | img | imgO | ai | ao
deriving DecidableEq

structure TokenParams where
  (p c len cr cc cc1h img imgO ai ao : Rat := 0)

def TokenParams.get (params : TokenParams) : ExprVar → Rat
  | .p => params.p
  | .c => params.c
  | .len => params.len
  | .cr => params.cr
  | .cc => params.cc
  | .cc1h => params.cc1h
  | .img => params.img
  | .imgO => params.imgO
  | .ai => params.ai
  | .ao => params.ao

structure RequestInput where
  headers : List (String × String) := []
  body : String := ""
deriving DecidableEq

inductive BillingMode where
  | ratio | tieredExpr
deriving DecidableEq

structure BillingSnapshot where
  billingMode : BillingMode
  exprString : String
  groupRatio : Rat
  estimatedQuotaAfterGroup : Int
  estimatedTier : String
  quotaPerUnit : Rat
deriving DecidableEq

structure GroupRatioInfo where
  groupRatio : Rat := 1
  groupSpecialRatio : Rat := -1
  hasSpecialRatio : Bool := false
deriving DecidableEq

structure PriceData where
  freeModel : Bool := false
  (modelPrice modelRatio completionRatio cacheRatio cacheCreationRatio cacheCreation5mRatio cacheCreation1hRatio
    imageRatio audioRatio audioCompletionRatio : Rat := 0)
  otherRatios : List (String × Rat) := []
  usePrice : Bool := false
  quotaToPreConsume : Int := 0
  groupRatioInfo : GroupRatioInfo := {}
deriving DecidableEq

namespace PriceData

def addOtherRatio (price : PriceData) (key : String) (ratio : Rat) : PriceData :=
  if 0 < ratio then { price with otherRatios := (key, ratio) :: price.otherRatios.filter (·.1 ≠ key) } else price

def applyOtherRatios (price : PriceData) (value : Rat) : Rat :=
  price.otherRatios.foldl (fun value entry => if 0 < entry.2 ∧ entry.2 ≠ 1 then value * entry.2 else value) value

end PriceData

/-- `runExpr` evaluates a billing expression to its cost and the tier it matched, `usedVars` are the variables it
mentions. -/
structure RelayEnv where
  modelPrice : String → Option Rat
  modelRatio : String → Rat × Bool × String
  defaultModelRatio : String → Option Rat
  (completionRatio cacheRatio createCacheRatio imageRatio audioRatio audioCompletionRatio groupRatio : String → Rat)
  groupGroupRatio : String → String → Option Rat
  toolPriceForModel : String → String → Rat
  billingMode : String → BillingMode
  billingExpr : String → Option String
  runExpr : String → TokenParams → RequestInput → Except String (Rat × String)
  usedVars : String → ExprVar → Bool
  quotaPerUnit : Rat
  preConsumedQuota : Int
  enableFreeModelPreConsume : Bool

abbrev BuiltInTools := List (String × Int)

structure ChannelMeta where
  channelType : Int
  passThroughBodyEnabled : Bool
deriving DecidableEq

def channelTypeOpenRouter : Int := 20

structure RelayInfo where
  relayFormat : RelayFormat
  requestConversionChain : List RelayFormat
  finalRequestRelayFormat : Option RelayFormat := none
  (originModelName userGroup usingGroup : String)
  acceptUnsetRatioModel : Bool := false
  (estimatePromptTokens finalPreConsumedQuota : Int := 0)
  priceData : PriceData := {}
  tieredBillingSnapshot : Option BillingSnapshot := none
  billingRequestInput : Option RequestInput := none
  builtInTools : Option BuiltInTools := none
  channelMeta : Option ChannelMeta := none
  upstreamRequestBodySize : Int := 0
  quotaClamp : Option QuotaClamp := none
deriving DecidableEq

structure RelayContext where
  autoGroup : Option String := none
  imageGenerationCall : Option (String × String) := none
  claudeWebSearchRequests : Int := 0
  requestInput : Except String RequestInput := .ok {}

namespace RelayInfo

def getFinalRequestRelayFormat (info : RelayInfo) : RelayFormat :=
  match info.finalRequestRelayFormat with
  | some format => format
  | none => info.requestConversionChain.getLast?.getD info.relayFormat

def appendRequestConversion (info : RelayInfo) (format : RelayFormat) : RelayInfo :=
  if info.requestConversionChain.getLast? = some format then info
  else { info with requestConversionChain := info.requestConversionChain ++ [format] }

end RelayInfo

def claudeCacheCreation1hMultiplier : Rat := 6 / (15 / 4)

def defaultTieredPreConsumeMaxTokens : Int := 8192

inductive PriceError where
  | notConfigured (modelName : String)
  | clamped (clamp : QuotaClamp)
  | noExpression (modelName : String)
  | requestInput (reason : String)
  | exprFailed (modelName reason : String)
deriving DecidableEq

section Prices
variable (env : RelayEnv) (ctx : RelayContext) (info : RelayInfo)

def servingGroup : String := ctx.autoGroup.getD info.usingGroup

def groupRatioOf (group : String) : GroupRatioInfo :=
  match env.groupGroupRatio info.userGroup group with
  | some ratio => { groupSpecialRatio := ratio, groupRatio := ratio, hasSpecialRatio := true }
  | none => { groupRatio := env.groupRatio group }

def handleGroupRatio : RelayInfo × GroupRatioInfo :=
  ({ info with usingGroup := servingGroup ctx info }, groupRatioOf env info (servingGroup ctx info))

structure TokenCountMeta where
  maxTokens : Int := 0
  imagePriceRatio : Rat := 0
  billingRatios : List (String × Rat) := []

def quotaConversion (exprOutput quotaPerUnit : Rat) : Rat :=
  float64Mul (float64Div exprOutput 1000000) quotaPerUnit

variable (promptTokens : Int) (tokens : TokenCountMeta)

def modelPriceHelperTiered (group : GroupRatioInfo) : Except PriceError (PriceData × RelayInfo) := do
  let expr ← (env.billingExpr info.originModelName).elim (.error (.noExpression info.originModelName)) .ok
  let completion := if tokens.maxTokens = 0 ∧ group.groupRatio ≠
    0 then defaultTieredPreConsumeMaxTokens else tokens.maxTokens
  let input ← ctx.requestInput.mapError .requestInput
  let (cost, tier) ← (env.runExpr expr { p := promptTokens, c := completion, len := promptTokens } input).mapError
    (.exprFailed info.originModelName)
  let beforeGroup := quotaConversion cost env.quotaPerUnit
  let estimate ← (strictQuota (quotaRoundChecked (float64Mul beforeGroup group.groupRatio))).mapError .clamped
  let free := !env.enableFreeModelPreConsume && decide (group.groupRatio = 0)
  let preConsumed := if free then 0 else estimate
  let snapshot : BillingSnapshot := {
    billingMode := .tieredExpr
    exprString := expr
    groupRatio := group.groupRatio
    estimatedQuotaAfterGroup := preConsumed
    estimatedTier := tier
    quotaPerUnit := env.quotaPerUnit }
  let price : PriceData := { freeModel := free, groupRatioInfo := group, quotaToPreConsume := preConsumed }
  return (price, { info with tieredBillingSnapshot := some snapshot, billingRequestInput := some input, priceData := price })

def modelPriceByRatio (group : GroupRatioInfo) : Except PriceError PriceData := do
  let preConsumedTokens := max promptTokens env.preConsumedQuota + tokens.maxTokens
  let (modelRatio, set, matchName) := env.modelRatio info.originModelName
  if !set && !info.acceptUnsetRatioModel then throw (.notConfigured matchName)
  let creation := env.createCacheRatio info.originModelName
  let quota ← (strictQuota
    (quotaFromFloatChecked (preConsumedTokens * (modelRatio * group.groupRatio)))).mapError .clamped
  let free := !env.enableFreeModelPreConsume && (decide (group.groupRatio = 0) || decide (modelRatio = 0))
  return {
    freeModel := free
    modelPrice := -1
    modelRatio := modelRatio
    completionRatio := env.completionRatio info.originModelName
    groupRatioInfo := group
    usePrice := false
    cacheRatio := env.cacheRatio info.originModelName
    imageRatio := env.imageRatio info.originModelName
    audioRatio := env.audioRatio info.originModelName
    audioCompletionRatio := env.audioCompletionRatio info.originModelName
    cacheCreationRatio := creation
    cacheCreation5mRatio := creation
    cacheCreation1hRatio := creation * claudeCacheCreation1hMultiplier
    quotaToPreConsume := if free then 0 else quota }

def modelPriceByCall (group : GroupRatioInfo) (setPrice : Rat) : Except PriceError PriceData := do
  let modelPrice := if tokens.imagePriceRatio ≠ 0 then setPrice * tokens.imagePriceRatio else setPrice
  let free := !env.enableFreeModelPreConsume && (decide (group.groupRatio = 0) || decide (modelPrice = 0))
  let price : PriceData := { freeModel := free, modelPrice := modelPrice, groupRatioInfo := group, usePrice := true }
  let price := tokens.billingRatios.foldl (fun price entry => price.addOtherRatio entry.1 entry.2) price
  let quota ← (strictQuota
    (quotaFromFloatChecked
    (price.applyOtherRatios (modelPrice * env.quotaPerUnit * group.groupRatio)))).mapError
    .clamped
  return { price with quotaToPreConsume := quota }

def modelPriceHelper : Except PriceError (PriceData × RelayInfo) := do
  let (info, group) := handleGroupRatio env ctx info
  if env.billingMode info.originModelName = .tieredExpr then modelPriceHelperTiered env ctx info promptTokens tokens group
  else
    let price ← match env.modelPrice info.originModelName with
      | some setPrice => modelPriceByCall env tokens group setPrice
      | none => modelPriceByRatio env info promptTokens tokens group
    return (price, { info with priceData := price })

end Prices
end NewApi.Relay
