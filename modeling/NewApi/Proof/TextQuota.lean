import NewApi.Relay.TextQuota

/-! # Charges by ratio -/

namespace NewApi.Proof
open Common Relay
variable {env : RelayEnv} {ctx : RelayContext} {info : RelayInfo}

theorem except_bind_ok {ε α β : Type} {first : Except ε α} {rest} {result : β}
    (ran : first >>= rest = .ok result) : ∃ value, first = .ok value ∧ rest value = .ok result := by
  cases first with
  | error => cases ran
  | ok value => exact ⟨value, rfl, ran⟩

section Prices
variable {priced : RelayInfo} {promptTokens : Int} {tokens : TokenCountMeta}
    {group : GroupRatioInfo} {price : PriceData}

theorem tiered_built (built : modelPriceHelperTiered env ctx info promptTokens tokens group = .ok (price, priced)) :
    ∃ snapshot input, snapshot.groupRatio = group.groupRatio ∧ snapshot.billingMode = .tieredExpr ∧
      price = { freeModel := price.freeModel, groupRatioInfo := group, quotaToPreConsume := price.quotaToPreConsume } ∧
      priced = { info with tieredBillingSnapshot := some snapshot, billingRequestInput := some input, priceData := price } := by
  unfold modelPriceHelperTiered at built
  obtain ⟨_, -, built⟩ := except_bind_ok built
  obtain ⟨input, -, built⟩ := except_bind_ok built
  obtain ⟨⟨_, _⟩, -, built⟩ := except_bind_ok built
  obtain ⟨_, -, built⟩ := except_bind_ok built
  cases built
  exact ⟨_, input, rfl, rfl, rfl, rfl⟩

theorem byRatio_built (built : modelPriceByRatio env info promptTokens tokens group = .ok price) :
    price.groupRatioInfo = group ∧ price.cacheCreation5mRatio = price.cacheCreationRatio := by
  unfold modelPriceByRatio at built
  split at built
  dsimp only at built
  split at built
  · cases built
  · obtain ⟨_, -, built⟩ := except_bind_ok built
    cases built
    exact ⟨rfl, rfl⟩

theorem addOtherRatio_keeps (ratios : List (String × Rat)) (price : PriceData) :
    (ratios.foldl (fun price entry => price.addOtherRatio entry.1 entry.2) price).usePrice = price.usePrice ∧
    (ratios.foldl (fun price entry => price.addOtherRatio entry.1 entry.2) price).groupRatioInfo = price.groupRatioInfo := by
  induction ratios generalizing price with
  | nil => exact ⟨rfl, rfl⟩
  | cons _ _ ih =>
    rw [List.foldl_cons, (ih _).1, (ih _).2, PriceData.addOtherRatio]
    split_ifs <;> exact ⟨rfl, rfl⟩

theorem byCall_built {setPrice : Rat} (built : modelPriceByCall env tokens group setPrice = .ok price) :
    price.usePrice = true ∧ price.groupRatioInfo = group := by
  unfold modelPriceByCall at built
  obtain ⟨_, -, built⟩ := except_bind_ok built
  cases built
  exact addOtherRatio_keeps _ _

theorem creation_price (built : modelPriceHelper env ctx info promptTokens tokens = .ok (price, priced))
    (ratios : price.usePrice = false) : price.cacheCreation5mRatio = price.cacheCreationRatio := by
  unfold modelPriceHelper at built
  dsimp only at built
  split_ifs at built
  · obtain ⟨-, -, -, -, same, -⟩ := tiered_built built
    rw [same]
  · split at built
    · obtain ⟨_, looked, built⟩ := except_bind_ok built
      cases built
      rw [(byCall_built looked).1] at ratios
      contradiction
    · obtain ⟨_, looked, built⟩ := except_bind_ok built
      cases built
      exact (byRatio_built looked).2

end Prices

structure Counts (read write output : Int) (usage : Usage) : Prop where
  completion : usage.completionTokens = output
  cached : usage.promptTokensDetails.cachedTokens = read
  creation : usage.promptTokensDetails.cacheCreationTokensTotal = write
  hour : usage.claudeCacheCreation1hTokens = 0
  image : usage.promptTokensDetails.imageTokens = 0
  audio : usage.promptTokensDetails.audioTokens = 0

structure CountsBeside (info : RelayInfo) (plain read write output : Int) (usage : Usage) :
    Prop extends Counts read write output usage where
  semantic : usageSemanticFromUsage info (some usage) = "anthropic"
  prompt : usage.promptTokens = plain
  five : usage.claudeCacheCreation5mTokens = 0 ∨ usage.claudeCacheCreation5mTokens = write

structure CountsInside (info : RelayInfo) (plain read write output : Int) (usage : Usage) :
    Prop extends Counts read write output usage where
  semantic : usageSemanticFromUsage info (some usage) = "openai"
  prompt : usage.promptTokens = plain + read + write
  five : usage.claudeCacheCreation5mTokens = 0

def plainQuota (env : RelayEnv) (ctx : RelayContext) (info : RelayInfo) (plain read write output : Int) : Rat :=
  let price := info.priceData
  let ratio := price.modelRatio * price.groupRatioInfo.groupRatio
  let quota := price.applyOtherRatios
    ((plain + read * price.cacheRatio + write * price.cacheCreationRatio + output * price.completionRatio) * ratio +
      calculateTextToolCallSurcharge env ctx info price.groupRatioInfo.groupRatio)
  if ratio ≠ 0 ∧ quota ≤ 0 then 1 else quota

def plainCharge (env : RelayEnv) (ctx : RelayContext) (info : RelayInfo) (plain read write output : Int) : Int :=
  let quota := (quotaFromDecimalChecked (plainQuota env ctx info plain read write output)).1
  if info.priceData.modelRatio * info.priceData.groupRatioInfo.groupRatio ≠ 0 ∧ quota = 0 then 1 else quota

section Charge
variable {usage : Usage} {plain read write output : Int} {beside : Bool}

theorem tokenSummary_reported (elsewhere : ∀ channel ∈ info.channelMeta, channel.channelType ≠ channelTypeOpenRouter)
    (usage) : tokenSummary env ctx info usage = reportedSummary env ctx info usage := by
  have regular : isOpenRouterClaudeBilling info (reportedSummary env ctx info usage) = false := by
    cases known : info.channelMeta with
    | none => simp [isOpenRouterClaudeBilling, known]
    | some channel => simp [isOpenRouterClaudeBilling, known, elsewhere channel known]
  simp [tokenSummary, regular]

section Counts
variable (counts : Counts read write output usage)
include counts

theorem audio_free : audioInputPrice info (reportedSummary env ctx info (some usage)) = 0 := by
  simp [audioInputPrice, reportedSummary, billedUsage, counts.audio]

theorem base_plain (plainly : 0 ≤ plain) (base : usage.promptTokens = plain + if beside then 0 else read + write) :
    baseTokens info (reportedSummary env ctx info (some usage)) beside = plain := by
  simp only [baseTokens, audio_free counts]
  simp only [reportedSummary, billedUsage, Option.getD_some, base, counts.cached, counts.creation,
    counts.image, lt_irrefl, if_false]
  rw [if_neg (by omega)]
  congr 1
  omega

theorem creation_plain (writes : 0 ≤ write) (five : usage.claudeCacheCreation5mTokens = 0 ∨
    usage.claudeCacheCreation5mTokens = write)
    (price : info.priceData.cacheCreation5mRatio = info.priceData.cacheCreationRatio) :
    cacheCreationWithRatio info (reportedSummary env ctx info (some usage)) beside = write *
      info.priceData.cacheCreationRatio := by
  simp only [cacheCreationWithRatio, reportedSummary, billedUsage, Option.getD_some,
    counts.creation, counts.hour, price]
  split_ifs with empty among remaining
  · simp [empty.1]
  · omega
  · rcases five with none | all
    · simp [none]
    · simp [all]
  · rfl

end Counts

section Ratios
variable (elsewhere : ∀ channel ∈ info.channelMeta, channel.channelType ≠ channelTypeOpenRouter)
    (ratios : info.priceData.usePrice = false) (price : info.priceData.cacheCreation5mRatio =
    info.priceData.cacheCreationRatio)
include elsewhere ratios price

theorem summary_charge (counts : Counts read write output usage)
    (decided : cacheBeside info (reportedSummary env ctx info (some usage)) (some usage) = beside) (plainly : 0 ≤ plain)
    (base : usage.promptTokens = plain + if beside then 0 else read + write) (writes : 0 ≤ write)
    (five : usage.claudeCacheCreation5mTokens = 0 ∨ usage.claudeCacheCreation5mTokens = write)
    (tokens : usage.promptTokens + usage.completionTokens ≠ 0) :
    (calculateTextQuotaSummary env ctx info (some usage)).quota = plainCharge env ctx info plain read write output := by
  have exact : ratioQuota env info (reportedSummary env ctx info (some usage)) beside =
    plainQuota env ctx info plain read write output := by
    simp only [ratioQuota, plainQuota, base_plain counts plainly base,
      creation_plain counts writes five price, audio_free counts]
    simp [reportedSummary, billedUsage, counts.completion, counts.cached, counts.image]
  have charged : (reportedSummary env ctx info (some usage)).totalTokens ≠ 0 := tokens
  simp only [calculateTextQuotaSummary, tokenSummary_reported elsewhere, ratios, decided, exact, charged, plainCharge]
  rfl

theorem beside_charge (counts : CountsBeside info plain read write output usage)
    (plainly : 0 ≤ plain) (writes : 0 ≤ write)
    (tokens : 0 < plain + output) :
    (calculateTextQuotaSummary env ctx info (some usage)).quota = plainCharge env ctx info plain read write output := by
  have decided : cacheBeside info (reportedSummary env ctx info (some usage)) (some usage) = true := by
    simp [cacheBeside, TextQuotaSummary.isClaudeUsageSemantic, reportedSummary, counts.semantic]
  refine summary_charge elsewhere ratios price counts.toCounts decided plainly ?_ writes counts.five ?_
  · rw [counts.prompt, if_pos rfl, add_zero]
  · rw [counts.prompt, counts.completion]
    omega

theorem inside_charge (counts : CountsInside info plain read write output usage)
    (plainly : 0 ≤ plain) (reads : 0 ≤ read)
    (writes : 0 ≤ write) (tokens : 0 < plain + output) :
    (calculateTextQuotaSummary env ctx info (some usage)).quota = plainCharge env ctx info plain read write output := by
  have decided : cacheBeside info (reportedSummary env ctx info (some usage)) (some usage) = false := by
    simp [cacheBeside, TextQuotaSummary.isClaudeUsageSemantic, reportedSummary, counts.semantic,
      isLegacyClaudeDerivedOpenAIUsage, billedUsage,
      counts.five, counts.hour]
  refine summary_charge elsewhere ratios price counts.toCounts decided plainly ?_ writes (.inl counts.five) ?_
  · rw [counts.prompt, if_neg Bool.false_ne_true, add_assoc]
  · rw [counts.prompt, counts.completion]
    omega

end Ratios

end Charge

theorem quota_across_semantics (env : RelayEnv) (asked ctx : RelayContext)
    (start priced info : RelayInfo) (promptTokens : Int)
    (tokens : TokenCountMeta) (price : PriceData) (built : modelPriceHelper env asked start
    promptTokens tokens = .ok (price, priced))
    (ratios : price.usePrice = false) (group : GroupRatioInfo)
    (prices : info.priceData = { price with groupRatioInfo := group })
    (elsewhere : ∀ channel ∈ info.channelMeta, channel.channelType ≠ channelTypeOpenRouter)
    (chain : List RelayFormat) (format : Option RelayFormat) (plain read write output : Int)
    (plainly : 0 ≤ plain) (reads : 0 ≤ read)
    (writes : 0 ≤ write) (some : 0 < plain + output) (anthropic openai : Usage)
    (beside : CountsBeside info plain read write output anthropic)
    (inside : CountsInside { info with requestConversionChain := chain, finalRequestRelayFormat := format } plain read write output openai) :
    (calculateTextQuotaSummary env ctx info anthropic).quota =
      (calculateTextQuotaSummary env ctx { info with requestConversionChain := chain, finalRequestRelayFormat := format } openai).quota := by
  have byRatio : info.priceData.usePrice = false := by rw [prices]; exact ratios
  have writePrice : info.priceData.cacheCreation5mRatio = info.priceData.cacheCreationRatio := by
    have same := creation_price built ratios
    rw [prices]
    exact same
  calc (calculateTextQuotaSummary env ctx info anthropic).quota
      = plainCharge env ctx info plain read write output :=
        beside_charge elsewhere byRatio writePrice beside plainly writes some
    _ = _ := (inside_charge (by exact elsewhere) (by exact byRatio)
      (by exact writePrice) inside plainly reads writes some).symm

def ratioEnv : RelayEnv where
  modelPrice _ := none
  modelRatio name := (1, true, name)
  defaultModelRatio _ := none
  completionRatio _ := 5
  cacheRatio _ := 1 / 10
  createCacheRatio _ := 5 / 4
  imageRatio _ := 1
  audioRatio _ := 1
  audioCompletionRatio _ := 1
  groupRatio _ := 1
  groupGroupRatio _ _ := none
  toolPriceForModel _ _ := 0
  billingMode _ := .ratio
  billingExpr _ := none
  runExpr _ _ _ := .error "no expression"
  usedVars _ _ := false
  quotaPerUnit := 500000
  preConsumedQuota := 500
  enableFreeModelPreConsume := false

def ratioPrice : PriceData where
  modelPrice := -1
  modelRatio := 1
  completionRatio := 5
  cacheRatio := 1 / 10
  cacheCreationRatio := 5 / 4
  cacheCreation5mRatio := 5 / 4
  cacheCreation1hRatio := 2
  imageRatio := 1
  audioRatio := 1
  audioCompletionRatio := 1
  quotaToPreConsume := 500

def ratioInfo : RelayInfo where
  relayFormat := .openai
  requestConversionChain := [.openai]
  originModelName := "model"
  userGroup := "default"
  usingGroup := "default"
  priceData := ratioPrice

theorem quota_across_semantics_writes : modelPriceHelper ratioEnv {} ratioInfo 100 {} = .ok (ratioPrice, ratioInfo) ∧
    (calculateTextQuotaSummary ratioEnv {} ratioInfo (some
      { promptTokens := 100, completionTokens := 10, usageSemantic := "anthropic", claudeCacheCreation5mTokens := 40
        promptTokensDetails := { cachedTokens := 20, cachedCreationTokens := 40 } })).quota =
    (calculateTextQuotaSummary ratioEnv {} ratioInfo (some
      { promptTokens := 160, completionTokens := 10
        promptTokensDetails := { cachedTokens := 20, cacheWriteTokens := 40 } })).quota := by
  have built : modelPriceHelper ratioEnv {} ratioInfo 100 {} = .ok (ratioPrice, ratioInfo) := by decide +kernel
  refine ⟨built, ?_⟩
  exact quota_across_semantics ratioEnv {} {} ratioInfo ratioInfo ratioInfo 100 {} ratioPrice built rfl {} rfl (by decide)
    ratioInfo.requestConversionChain ratioInfo.finalRequestRelayFormat 100 20 40 10 (by decide) (by decide) (by decide) (by decide) _ _
    ⟨⟨rfl, rfl, by decide, rfl, rfl, rfl⟩, by decide, rfl, .inr rfl⟩ ⟨⟨rfl, rfl, by decide, rfl, rfl, rfl⟩, by decide, rfl, rfl⟩

end NewApi.Proof
