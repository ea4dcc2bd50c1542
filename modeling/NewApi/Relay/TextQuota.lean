import NewApi.Relay.Price

/-!
# The charge of a text request

The usage is billed by ratios, by a price for the call or by the expression of the snapshot, with a
surcharge for built-in tools. Whether cached tokens are part of the prompt is decided by the
semantic of the usage, or else by the format of the last request to an upstream.
-/

namespace NewApi.Relay
open Common

def getGPTImage1PriceOnceCall (quality size : String) : Rat :=
  if quality = "low" then
    if size = "1024x1024" then 11 / 1000 else if size = "1024x1536" ∨ size = "1536x1024" then 16 / 1000 else 167 / 1000
  else if quality = "medium" then
    if size = "1024x1024" then 42 / 1000 else if size = "1024x1536" ∨ size = "1536x1024" then 63 / 1000 else 167 / 1000
  else if quality = "high" then
    if size = "1024x1024" then 167 / 1000 else if size = "1024x1536" ∨ size = "1536x1024" then 25 / 100 else 167 / 1000
  else 167 / 1000

def getGeminiInputAudioPricePerMillionTokens (modelName : String) : Rat :=
  if "gemini-2.5-flash-preview-native-audio".isPrefixOf modelName then 3
  else if "gemini-2.5-flash-preview-lite".isPrefixOf modelName then 1 / 2
  else if "gemini-2.5-flash-preview".isPrefixOf modelName then 1
  else if "gemini-2.5-flash".isPrefixOf modelName then 1
  else if "gemini-2.0-flash".isPrefixOf modelName then 7 / 10
  else if "gemini-robotics-er-1.5".isPrefixOf modelName then 1
  else 0

def buildInToolWebSearchPreview : String := "web_search_preview"

def buildInToolFileSearch : String := "file_search"

def buildTieredTokenParams (usage : Usage) (isClaudeUsageSemantic : Bool) (usedVars : ExprVar → Bool) : TokenParams :=
  let cr : Rat := usage.promptTokensDetails.cachedTokens
  let anthropic := usage.usageSemantic = "anthropic"
  let cc5m : Rat :=
    if anthropic then usage.claudeCacheCreation5mTokens else usage.promptTokensDetails.cacheCreationTokensTotal
  let cc1h : Rat := if anthropic then usage.claudeCacheCreation1hTokens else 0
  let img : Rat := usage.promptTokensDetails.imageTokens
  let ai : Rat := usage.promptTokensDetails.audioTokens
  let imgO : Rat := usage.completionTokenDetails.imageTokens
  let ao : Rat := usage.completionTokenDetails.audioTokens
  let prompt : Rat := usage.promptTokens
  let completion : Rat := usage.completionTokens
  -- Only the tokens of variables that the expression mentions are taken out.
  let excluded (var : ExprVar) (tokens : Rat) : Rat := if usedVars var then tokens else 0
  let p := if isClaudeUsageSemantic then prompt
    else prompt - excluded .cr cr - excluded .cc cc5m - excluded .cc1h cc1h - excluded .img img - excluded .ai ai
  let c := if isClaudeUsageSemantic then completion else completion - excluded .imgO imgO - excluded .ao ao
  { p := if p < 0 then 0 else p
    c := if c < 0 then 0 else c
    len := if isClaudeUsageSemantic then prompt + cr + cc5m + cc1h else prompt
    cr := cr
    cc := cc5m
    cc1h := cc1h
    img := img
    imgO := imgO
    ai := ai
    ao := ao }

structure TieredResult where
  actualQuotaBeforeGroup : Rat
  actualQuotaAfterGroup : Int
  matchedTier : String
  crossedTier : Bool
  clamp : Option QuotaClamp

def computeTieredQuotaWithRequest (env : RelayEnv) (snapshot : BillingSnapshot)
    (params : TokenParams) (input : RequestInput) :
    Except String TieredResult := do
  let (cost, tier) ← env.runExpr snapshot.exprString params input
  let beforeGroup := quotaConversion cost snapshot.quotaPerUnit
  let (afterGroup, clamp) := quotaRoundChecked (float64Mul beforeGroup snapshot.groupRatio)
  return ⟨beforeGroup, afterGroup, tier, tier ≠ snapshot.estimatedTier, clamp⟩

def tryTieredSettle (env : RelayEnv) (info : RelayInfo) (params : TokenParams) : Option (Int × Option TieredResult) :=
  match info.tieredBillingSnapshot with
  | none => none
  | some snapshot =>
    if snapshot.billingMode ≠ .tieredExpr then none
    else
      match computeTieredQuotaWithRequest env snapshot params (info.billingRequestInput.getD {}) with
      | .error _ =>
        some (if info.finalPreConsumedQuota ≤
          0 then snapshot.estimatedQuotaAfterGroup else info.finalPreConsumedQuota, none)
      | .ok result => some (result.actualQuotaAfterGroup, some result)

def usageSemanticFromUsage (info : RelayInfo) (usage : Option Usage) : String :=
  match usage with
  | some usage =>
    if usage.usageSemantic ≠ "" then usage.usageSemantic
    else if info.getFinalRequestRelayFormat = .claude then "anthropic" else "openai"
  | none => if info.getFinalRequestRelayFormat = .claude then "anthropic" else "openai"

def isLegacyClaudeDerivedOpenAIUsage (info : RelayInfo) (usage : Usage) : Bool :=
  info.getFinalRequestRelayFormat ≠ .claude && usage.usageSource = "" && usage.usageSemantic = "" &&
    (0 < usage.claudeCacheCreation5mTokens || 0 < usage.claudeCacheCreation1hTokens)

section Surcharge
variable (env : RelayEnv) (ctx : RelayContext) (info : RelayInfo)

def callCount (tool : String) : Int := ((info.builtInTools.bind (·.lookup tool)).getD 0)

def webSearchPrice : Rat := env.toolPriceForModel "web_search_preview" info.originModelName

def toolCallPrice : Rat :=
  let webSearch := match info.builtInTools with
    | some _ =>
      let calls := callCount info buildInToolWebSearchPreview
      if 0 < calls then webSearchPrice env info * calls / 1000 else 0
    | none => if "search-preview".toList <:+ info.originModelName.toList then webSearchPrice env info / 1000 else 0
  let claudeWebSearch :=
    if 0 < ctx.claudeWebSearchRequests then env.toolPriceForModel "web_search" "" / 1000 *
      ctx.claudeWebSearchRequests else 0
  let fileSearch :=
    let calls := callCount info buildInToolFileSearch
    if 0 < calls then env.toolPriceForModel "file_search" "" * calls / 1000 else 0
  let image := match ctx.imageGenerationCall with
    | some (quality, size) => getGPTImage1PriceOnceCall quality size
    | none => 0
  webSearch + claudeWebSearch + fileSearch + image

def calculateTextToolCallSurcharge (groupRatio : Rat) :
    Rat := toolCallPrice env ctx info * groupRatio * env.quotaPerUnit

end Surcharge

structure TextQuotaSummary where
  (promptTokens completionTokens totalTokens cacheTokens cacheCreationTokens cacheCreationTokens5m
    cacheCreationTokens1h imageTokens audioTokens : Int)
  usageSemantic : String
  toolCallSurchargeQuota : Rat
  quota : Int := 0
deriving DecidableEq

def TextQuotaSummary.isClaudeUsageSemantic (summary : TextQuotaSummary) : Bool := summary.usageSemantic = "anthropic"

def hasCustomModelRatio (env : RelayEnv) (modelName : String) (ratio : Rat) : Bool :=
  match env.defaultModelRatio modelName with
  | none => true
  | some standard => ratio ≠ standard

def calcOpenRouterCacheCreateTokens (env : RelayEnv) (usage : Usage) (price : PriceData) : Int :=
  if price.cacheCreationRatio = 1 then 0
  else
    let quotaPrice := price.modelRatio / env.quotaPerUnit
    roundDecimal ((usage.cost.getD 0 - usage.promptTokens * quotaPrice +
      usage.promptTokensDetails.cachedTokens * (quotaPrice - quotaPrice * price.cacheRatio) -
      usage.completionTokens * (quotaPrice * price.completionRatio)) /
        (quotaPrice * price.cacheCreationRatio - quotaPrice))

section Summary
variable (env : RelayEnv) (ctx : RelayContext) (info : RelayInfo)

def billedUsage (usage : Option Usage) : Usage :=
  usage.getD { promptTokens := info.estimatePromptTokens, totalTokens := info.estimatePromptTokens }

def reportedSummary (usage : Option Usage) : TextQuotaSummary :=
  let billed := billedUsage info usage
  { promptTokens := billed.promptTokens
    completionTokens := billed.completionTokens
    totalTokens := billed.promptTokens + billed.completionTokens
    cacheTokens := billed.promptTokensDetails.cachedTokens
    cacheCreationTokens := billed.promptTokensDetails.cacheCreationTokensTotal
    cacheCreationTokens5m := billed.claudeCacheCreation5mTokens
    cacheCreationTokens1h := billed.claudeCacheCreation1hTokens
    imageTokens := billed.promptTokensDetails.imageTokens
    audioTokens := billed.promptTokensDetails.audioTokens
    usageSemantic := usageSemanticFromUsage info usage
    toolCallSurchargeQuota := calculateTextToolCallSurcharge env ctx info info.priceData.groupRatioInfo.groupRatio }

variable (summary : TextQuotaSummary)

/-- OpenRouter reports Claude models with the cache inside the prompt, and cache writes only through the cost.
`Cost` is a `float64` in an interface, so it never equals the integer 0 that it is compared with. -/
def openRouterSummary (usage : Usage) : TextQuotaSummary :=
  let prompt := summary.promptTokens - summary.cacheTokens
  let custom := info.priceData.usePrice || hasCustomModelRatio env info.originModelName info.priceData.modelRatio
  let maybe := calcOpenRouterCacheCreateTokens env usage info.priceData
  let creation :=
    if summary.cacheCreationTokens = 0 ∧ info.priceData.cacheCreationRatio ≠ 1 ∧ custom = false ∧
      0 ≤ maybe ∧ maybe ≤ prompt then maybe
    else summary.cacheCreationTokens
  { summary with promptTokens := prompt - creation, cacheCreationTokens := creation }

def isOpenRouterClaudeBilling : Bool :=
  info.channelMeta.any (·.channelType = channelTypeOpenRouter) && summary.isClaudeUsageSemantic

def tokenSummary (usage : Option Usage) : TextQuotaSummary :=
  let summary := reportedSummary env ctx info usage
  if isOpenRouterClaudeBilling info summary then openRouterSummary env info summary
    (billedUsage info usage) else summary

def cacheBeside (usage : Option Usage) : Bool :=
  summary.isClaudeUsageSemantic || isLegacyClaudeDerivedOpenAIUsage info (billedUsage info usage)

def audioInputPrice : Rat :=
  if summary.audioTokens ≠ 0 then getGeminiInputAudioPricePerMillionTokens info.originModelName else 0

def baseTokens (beside : Bool) : Rat :=
  let cached := if beside then 0 else summary.cacheTokens + summary.cacheCreationTokens
  let audio := if 0 < audioInputPrice info summary then summary.audioTokens else 0
  let base : Int := summary.promptTokens - cached - summary.imageTokens - audio
  if base < 0 then 0 else base

def cacheCreationWithRatio (beside : Bool) : Rat :=
  if summary.cacheCreationTokens = 0 ∧ summary.cacheCreationTokens5m ≤ 0 ∧ summary.cacheCreationTokens1h ≤ 0 then 0
  else if beside then
    let remaining := summary.cacheCreationTokens - summary.cacheCreationTokens5m - summary.cacheCreationTokens1h
    (if remaining < 0 then 0 else remaining : Int) * info.priceData.cacheCreationRatio +
      summary.cacheCreationTokens5m * info.priceData.cacheCreation5mRatio +
      summary.cacheCreationTokens1h * info.priceData.cacheCreation1hRatio
  else summary.cacheCreationTokens * info.priceData.cacheCreationRatio

def ratioQuota (beside : Bool) : Rat :=
  let price := info.priceData
  let ratio := price.modelRatio * price.groupRatioInfo.groupRatio
  let promptQuota := baseTokens info summary beside + summary.cacheTokens * price.cacheRatio +
    summary.imageTokens * price.imageRatio +
    cacheCreationWithRatio info summary beside
  let audioInputQuota := if 0 < audioInputPrice info summary then
    audioInputPrice info summary / 1000000 * summary.audioTokens * price.groupRatioInfo.groupRatio *
      env.quotaPerUnit else 0
  let quota := price.applyOtherRatios
    ((promptQuota + summary.completionTokens * price.completionRatio) * ratio +
      summary.toolCallSurchargeQuota + audioInputQuota)
  if ratio ≠ 0 ∧ quota ≤ 0 then 1 else quota

def callQuota : Rat :=
  info.priceData.applyOtherRatios
    (info.priceData.modelPrice * env.quotaPerUnit * info.priceData.groupRatioInfo.groupRatio +
      summary.toolCallSurchargeQuota)

def calculateTextQuotaSummary (usage : Option Usage) : TextQuotaSummary :=
  let summary := tokenSummary env ctx info usage
  let ratio := info.priceData.modelRatio * info.priceData.groupRatioInfo.groupRatio
  let exact := if info.priceData.usePrice then callQuota env info summary else ratioQuota env info
    summary (cacheBeside info summary usage)
  let quota := (quotaFromDecimalChecked exact).1
  { summary with quota := if summary.totalTokens = 0 then 0 else if ratio ≠ 0 ∧ quota = 0 then 1 else quota }

end Summary

def composedQuota (info : RelayInfo) (summary : TextQuotaSummary) (tieredQuota : Int)
    (result : Option TieredResult) : Option Rat :=
  if summary.toolCallSurchargeQuota = 0 then none
  else
    match result, info.tieredBillingSnapshot with
    | some result, some snapshot => some (result.actualQuotaBeforeGroup * snapshot.groupRatio +
        summary.toolCallSurchargeQuota)
    | _, _ => some (tieredQuota + summary.toolCallSurchargeQuota)

def composeTieredTextQuota (info : RelayInfo) (summary : TextQuotaSummary) (tieredQuota : Int)
    (result : Option TieredResult) : Int :=
  match composedQuota info summary tieredQuota result with
  | none => tieredQuota
  | some exact => (quotaFromDecimalChecked exact).1

def postTextConsumeQuota (env : RelayEnv) (ctx : RelayContext) (info : RelayInfo)
    (usage : Option Usage) : TextQuotaSummary :=
  let billing := usage.map effectiveBillingUsage
  let summary := calculateTextQuotaSummary env ctx info billing
  match billing with
  | none => summary
  | some billing =>
    let usedVars := (info.tieredBillingSnapshot.map fun snapshot =>
      env.usedVars snapshot.exprString).getD fun _ => false
    match tryTieredSettle env info (buildTieredTokenParams billing summary.isClaudeUsageSemantic usedVars) with
    | none => summary
    | some (tieredQuota, result) => { summary with quota := composeTieredTextQuota info summary tieredQuota result }

end NewApi.Relay
