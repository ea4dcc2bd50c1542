import NewApi.Proof.TextQuota
import Mathlib.Tactic.Positivity

/-! # Bounds of a charge by ratio -/

namespace NewApi.Proof
open Common Relay

variable {low high quota : Rat}

theorem roundDecimal_mono (nonneg : 0 ≤ low) (le : low ≤ high) : roundDecimal low ≤ roundDecimal high := by
  rw [roundDecimal, if_pos nonneg, roundDecimal, if_pos (nonneg.trans le)]
  exact Int.floor_mono (by linarith)

theorem quotaFromDecimalChecked_eq {value} (nonneg : 0 ≤ value) :
    (quotaFromDecimalChecked value).1 = min maxQuota (roundDecimal value) := by
  have rounded := roundDecimal_nonneg nonneg
  unfold quotaFromDecimalChecked saturateQuota
  dsimp only
  split_ifs with above under
  · exact (min_eq_left (by exact_mod_cast above)).symm
  · have under : roundDecimal value ≤ minQuota := by exact_mod_cast under
    unfold minQuota at under
    omega
  · have below : roundDecimal value < maxQuota := by exact_mod_cast not_le.mp above
    rw [min_eq_right below.le]
    simp [intPart]

/-! ## The charge for an exact quota -/

def leastCharge (ratio quota : Rat) : Int :=
  let charge := (quotaFromDecimalChecked (if ratio ≠ 0 ∧ quota ≤ 0 then 1 else quota)).1
  if ratio ≠ 0 ∧ charge = 0 then 1 else charge

theorem leastCharge_eq (ratio : Rat) (nonneg : 0 ≤ quota) :
    leastCharge ratio quota = max (if ratio = 0 then 0 else 1) (min maxQuota (roundDecimal quota)) := by
  have rounded := roundDecimal_nonneg nonneg
  unfold leastCharge
  by_cases free : ratio = 0
  · simp only [free, ne_eq, not_true_eq_false, false_and, if_false, if_true, quotaFromDecimalChecked_eq nonneg]
    unfold maxQuota
    omega
  · simp only [free, ne_eq, not_false_eq_true, true_and, if_false]
    by_cases small : quota ≤ 0
    · obtain rfl := le_antisymm small nonneg
      decide +kernel
    · simp only [small, if_false, quotaFromDecimalChecked_eq nonneg]
      generalize roundDecimal quota = charge at rounded ⊢
      unfold maxQuota
      split_ifs <;> omega

theorem leastCharge_mono (ratio : Rat) (nonneg : 0 ≤ low) (le : low ≤ high) :
    leastCharge ratio low ≤ leastCharge ratio high := by
  rw [leastCharge_eq ratio nonneg, leastCharge_eq ratio (nonneg.trans le)]
  exact max_le_max le_rfl (min_le_min le_rfl (roundDecimal_mono nonneg le))

theorem leastCharge_bounds (ratio : Rat) (nonneg : 0 ≤ quota) :
    0 ≤ leastCharge ratio quota ∧ leastCharge ratio quota ≤ maxQuota ∧ (ratio ≠ 0 → 1 ≤ leastCharge ratio quota) := by
  rw [leastCharge_eq ratio nonneg]
  have rounded := roundDecimal_nonneg nonneg
  unfold maxQuota
  refine ⟨?_, ?_, fun paid => ?_⟩
  · split_ifs <;> omega
  · split_ifs <;> omega
  · rw [if_neg paid]
    exact le_max_left _ _

theorem applyOtherRatios_factor (price : PriceData) : ∃ factor :
    Rat, 0 < factor ∧ ∀ value, price.applyOtherRatios value = value * factor := by
  unfold PriceData.applyOtherRatios
  induction price.otherRatios with
  | nil => exact ⟨1, one_pos, fun value => (mul_one value).symm⟩
  | cons entry _ ih =>
    obtain ⟨factor, pos, applied⟩ := ih
    by_cases counts : 0 < entry.2 ∧ entry.2 ≠ 1
    · refine ⟨entry.2 * factor, mul_pos counts.1 pos, fun _ => ?_⟩
      rw [List.foldl_cons, if_pos counts, applied, mul_assoc]
    · refine ⟨factor, pos, fun _ => ?_⟩
      rw [List.foldl_cons, if_neg counts, applied]

/-! ## The exact quota -/

structure NonnegPrices (env : RelayEnv) (price : PriceData) : Prop where
  byRatio : price.usePrice = false
  model : 0 ≤ price.modelRatio
  group : 0 ≤ price.groupRatioInfo.groupRatio
  completion : 0 ≤ price.completionRatio
  cache : 0 ≤ price.cacheRatio
  creation : 0 ≤ price.cacheCreationRatio
  creation5m : 0 ≤ price.cacheCreation5mRatio
  creation1h : 0 ≤ price.cacheCreation1hRatio
  image : 0 ≤ price.imageRatio
  unit : 0 ≤ env.quotaPerUnit
  tools : ∀ tool model, 0 ≤ env.toolPriceForModel tool model

structure NonnegCounts (summary : TextQuotaSummary) : Prop where
  completion : 0 ≤ summary.completionTokens
  cache : 0 ≤ summary.cacheTokens
  creation : 0 ≤ summary.cacheCreationTokens
  creation5m : 0 ≤ summary.cacheCreationTokens5m
  creation1h : 0 ≤ summary.cacheCreationTokens1h
  image : 0 ≤ summary.imageTokens
  audio : 0 ≤ summary.audioTokens
  surcharge : 0 ≤ summary.toolCallSurchargeQuota

structure NonnegUsage (usage : Usage) : Prop where
  prompt : 0 ≤ usage.promptTokens
  completion : 0 ≤ usage.completionTokens
  cached : 0 ≤ usage.promptTokensDetails.cachedTokens
  creation5m : 0 ≤ usage.claudeCacheCreation5mTokens
  creation1h : 0 ≤ usage.claudeCacheCreation1hTokens
  image : 0 ≤ usage.promptTokensDetails.imageTokens
  audio : 0 ≤ usage.promptTokensDetails.audioTokens

section Quota
variable {env : RelayEnv} {ctx : RelayContext} {info : RelayInfo} {summary : TextQuotaSummary}
    {usage : Option Usage} {beside : Bool}

def promptQuota (env : RelayEnv) (info : RelayInfo) (summary : TextQuotaSummary) (beside : Bool) : Rat :=
  let price := info.priceData
  (baseTokens info summary beside + summary.cacheTokens * price.cacheRatio + summary.imageTokens * price.imageRatio +
    cacheCreationWithRatio info summary beside) * (price.modelRatio *
      price.groupRatioInfo.groupRatio) + summary.toolCallSurchargeQuota +
  if 0 < audioInputPrice info summary then
    audioInputPrice info summary / 1000000 * summary.audioTokens * price.groupRatioInfo.groupRatio *
      env.quotaPerUnit else 0

def exactQuota (env : RelayEnv) (info : RelayInfo) (summary : TextQuotaSummary) (beside : Bool) : Rat :=
  info.priceData.applyOtherRatios (promptQuota env info summary beside +
    summary.completionTokens * (info.priceData.completionRatio *
      (info.priceData.modelRatio * info.priceData.groupRatioInfo.groupRatio)))

theorem summary_quota (byRatio : info.priceData.usePrice = false) :
    (calculateTextQuotaSummary env ctx info usage).quota =
    if (tokenSummary env ctx info usage).totalTokens = 0 then 0
    else leastCharge (info.priceData.modelRatio * info.priceData.groupRatioInfo.groupRatio)
      (exactQuota env info (tokenSummary env ctx info usage)
        (cacheBeside info (tokenSummary env ctx info usage) usage)) := by
  have same (summary : TextQuotaSummary) (beside : Bool) : ratioQuota env info summary beside =
      if info.priceData.modelRatio * info.priceData.groupRatioInfo.groupRatio ≠ 0 ∧
        exactQuota env info summary beside ≤ 0 then 1
      else exactQuota env info summary beside := by
    have sum : exactQuota env info summary beside = info.priceData.applyOtherRatios ((baseTokens info summary beside +
          summary.cacheTokens * info.priceData.cacheRatio + summary.imageTokens * info.priceData.imageRatio +
          cacheCreationWithRatio info summary beside + summary.completionTokens * info.priceData.completionRatio) *
          (info.priceData.modelRatio * info.priceData.groupRatioInfo.groupRatio) + summary.toolCallSurchargeQuota +
          if 0 < audioInputPrice info summary then audioInputPrice info summary / 1000000 * summary.audioTokens *
            info.priceData.groupRatioInfo.groupRatio * env.quotaPerUnit else 0) := by
      unfold exactQuota promptQuota
      congr 1
      ring
    rw [sum]
    rfl
  unfold calculateTextQuotaSummary
  simp only [byRatio, same, Bool.false_eq_true, if_false]
  rfl

section Prices
variable (prices : NonnegPrices env info.priceData)
include prices

theorem promptQuota_nonneg (counts : NonnegCounts summary) : 0 ≤ promptQuota env info summary beside := by
  have cache := mul_nonneg (Int.cast_nonneg (R := Rat) counts.cache) prices.cache
  have image := mul_nonneg (Int.cast_nonneg (R := Rat) counts.image) prices.image
  have clamped (tokens : Int) : 0 ≤ if tokens < 0 then (0 : Rat) else tokens := by
    split_ifs with negative
    · exact le_rfl
    · exact_mod_cast not_lt.mp negative
  have base : 0 ≤ baseTokens info summary beside := clamped _
  have creation : 0 ≤ cacheCreationWithRatio info summary beside := by
    have five := mul_nonneg (Int.cast_nonneg (R := Rat) counts.creation5m) prices.creation5m
    have hour := mul_nonneg (Int.cast_nonneg (R := Rat) counts.creation1h) prices.creation1h
    unfold cacheCreationWithRatio
    dsimp only
    split_ifs with empty claude negative
    · exact le_rfl
    · simpa using add_nonneg five hour
    · have rest := mul_nonneg (Int.cast_nonneg (R := Rat) (not_lt.mp negative)) prices.creation
      exact add_nonneg (add_nonneg rest five) hour
    · exact mul_nonneg (Int.cast_nonneg (R := Rat) counts.creation) prices.creation
  have ratio := mul_nonneg prices.model prices.group
  have surcharge := counts.surcharge
  unfold promptQuota
  dsimp only
  split_ifs with priced
  · have audio := Int.cast_nonneg (R := Rat) counts.audio
    have group := prices.group
    have unit := prices.unit
    positivity
  · positivity

theorem exactQuota_nonneg (counts : NonnegCounts summary) (beside : Bool) : 0 ≤ exactQuota env info summary beside := by
  obtain ⟨_, pos, applied⟩ := applyOtherRatios_factor info.priceData
  rw [exactQuota, applied]
  exact mul_nonneg (add_nonneg (promptQuota_nonneg prices counts) (mul_nonneg (Int.cast_nonneg counts.completion)
    (mul_nonneg prices.completion (mul_nonneg prices.model prices.group)))) pos.le

theorem surcharge_nonneg : 0 ≤ calculateTextToolCallSurcharge env ctx info
    info.priceData.groupRatioInfo.groupRatio := by
  refine mul_nonneg (mul_nonneg ?_ prices.group) prices.unit
  have price (tool model) := prices.tools tool model
  unfold toolCallPrice
  dsimp only
  refine add_nonneg (add_nonneg (add_nonneg ?_ ?_) ?_) ?_
  · split
    · split_ifs with some
      · exact div_nonneg (mul_nonneg (price _ _) (Int.cast_nonneg some.le)) (by norm_num)
      · exact le_rfl
    · split_ifs
      · exact div_nonneg (price _ _) (by norm_num)
      · exact le_rfl
  · split_ifs with some
    · exact mul_nonneg (div_nonneg (price _ _) (by norm_num)) (Int.cast_nonneg some.le)
    · exact le_rfl
  · split_ifs with some
    · exact div_nonneg (mul_nonneg (price _ _) (Int.cast_nonneg some.le)) (by norm_num)
    · exact le_rfl
  · split
    · unfold getGPTImage1PriceOnceCall
      split_ifs <;> norm_num
    · exact le_rfl

end Prices

theorem creationTotal_nonneg (details : InputTokenDetails) : 0 ≤ details.cacheCreationTokensTotal := by
  unfold InputTokenDetails.cacheCreationTokensTotal
  dsimp only
  split_ifs <;> omega

theorem tokenSummary_nonneg (prices : NonnegPrices env info.priceData) (counts : NonnegUsage (billedUsage info usage)) :
    NonnegCounts (tokenSummary env ctx info usage) := by
  have total := creationTotal_nonneg (billedUsage info usage).promptTokensDetails
  have reported : NonnegCounts (reportedSummary env ctx info usage) :=
    ⟨counts.completion, counts.cached, total, counts.creation5m, counts.creation1h, counts.image,
      counts.audio, surcharge_nonneg prices⟩
  unfold tokenSummary
  dsimp only
  split_ifs
  · refine { reported with creation := ?_ }
    unfold openRouterSummary
    dsimp only
    split_ifs with estimated
    · exact estimated.2.2.2.1
    · exact total
  · exact reported

theorem tokenSummary_total : (tokenSummary env ctx info usage).totalTokens =
    (billedUsage info usage).promptTokens + (billedUsage info usage).completionTokens := by
  unfold tokenSummary
  dsimp only
  split_ifs <;> rfl

/-! ## More completion tokens -/

def moreCompletion (more : Int) (usage : Usage) : Usage :=
    { usage with completionTokens := usage.completionTokens + more }

def EstimatesWrites (env : RelayEnv) (info : RelayInfo) (usage : Usage) : Prop :=
  (∃ channel ∈ info.channelMeta, channel.channelType = channelTypeOpenRouter) ∧
    usageSemanticFromUsage info (some usage) = "anthropic" ∧
  usage.promptTokensDetails.cacheCreationTokensTotal = 0 ∧ info.priceData.cacheCreationRatio ≠ 1 ∧
  hasCustomModelRatio env info.originModelName info.priceData.modelRatio = false

theorem tokenSummary_more {usage} (more : Int) (reported : ¬EstimatesWrites env info usage) :
    tokenSummary env ctx info (some (moreCompletion more usage)) = { tokenSummary env ctx info (some usage) with
        completionTokens := usage.completionTokens + more
        totalTokens := usage.promptTokens + (usage.completionTokens + more) } := by
  have same : isOpenRouterClaudeBilling info (reportedSummary env ctx info (some (moreCompletion more usage))) =
    isOpenRouterClaudeBilling info (reportedSummary env ctx info (some usage)) := rfl
  unfold tokenSummary
  dsimp only
  rw [same]
  by_cases router : isOpenRouterClaudeBilling info (reportedSummary env ctx info (some usage)) = true
  · rw [if_pos router, if_pos router]
    have claude : (∃ channel ∈ info.channelMeta, channel.channelType = channelTypeOpenRouter) ∧
        usageSemanticFromUsage info (some usage) = "anthropic" := by
      obtain ⟨known, semantic⟩ := Bool.and_eq_true_iff.mp router
      exact ⟨by simpa [Option.any_eq_true] using known, of_decide_eq_true semantic⟩
    have given (prompt maybe : Int) : ¬(usage.promptTokensDetails.cacheCreationTokensTotal = 0 ∧
      info.priceData.cacheCreationRatio ≠ 1 ∧
        (info.priceData.usePrice || hasCustomModelRatio env info.originModelName info.priceData.modelRatio) = false ∧
        0 ≤ maybe ∧ maybe ≤ prompt) := fun ⟨unreported, written, custom, _⟩ =>
      reported ⟨claude.1, claude.2, unreported, written, (Bool.or_eq_false_iff.mp custom).2⟩
    simp only [openRouterSummary, reportedSummary, billedUsage, moreCompletion, Option.getD_some, given, if_false]
    rfl
  · rw [if_neg router, if_neg router]
    rfl

theorem exactQuota_more (prices : NonnegPrices env info.priceData) (beside : Bool) {completion} (total : Int)
    (more : summary.completionTokens ≤ completion) : exactQuota env info summary beside ≤
      exactQuota env info { summary with completionTokens := completion, totalTokens := total } beside := by
  obtain ⟨_, pos, applied⟩ := applyOtherRatios_factor info.priceData
  have price := mul_nonneg prices.completion (mul_nonneg prices.model prices.group)
  have count : (summary.completionTokens : Rat) ≤ completion := by exact_mod_cast more
  rw [exactQuota, exactQuota, applied, applied]
  exact mul_le_mul_of_nonneg_right (add_le_add le_rfl (mul_le_mul_of_nonneg_right count price)) pos.le

theorem quota_more {usage} (prices : NonnegPrices env info.priceData) (counts : NonnegUsage usage)
    (reported : ¬EstimatesWrites env info usage) {more} (further : 0 ≤ more) :
    (calculateTextQuotaSummary env ctx info (some usage)).quota ≤
      (calculateTextQuotaSummary env ctx info (some (moreCompletion more usage))).quota := by
  have nonneg : NonnegCounts (tokenSummary env ctx info (some usage)) := tokenSummary_nonneg prices counts
  have before : (tokenSummary env ctx info (some usage)).completionTokens = usage.completionTokens := by
    unfold tokenSummary
    dsimp only
    split_ifs <;> rfl
  have least := exactQuota_nonneg prices nonneg (cacheBeside info (tokenSummary env ctx info (some usage)) (some usage))
  have grows := exactQuota_more prices (cacheBeside info (tokenSummary env ctx info (some usage)) (some usage))
    (usage.promptTokens + (usage.completionTokens + more)) (before.le.trans (le_add_of_nonneg_right further))
  rw [summary_quota prices.byRatio, summary_quota prices.byRatio, tokenSummary_total, tokenSummary_more more reported]
  have prompt := counts.prompt
  have completion := counts.completion
  show (if usage.promptTokens + usage.completionTokens = 0 then 0 else _) ≤
    if usage.promptTokens + (usage.completionTokens + more) = 0 then 0 else _
  split_ifs
  · exact le_rfl
  · exact (leastCharge_bounds _ (least.trans grows)).1
  · omega
  · exact leastCharge_mono _ least grows

end Quota

theorem text_quota_bounds (env : RelayEnv) (ctx : RelayContext) (info : RelayInfo) (usage : Option Usage)
    (prices : NonnegPrices env info.priceData) (counts : NonnegUsage (billedUsage info usage)) :
    let billed := billedUsage info usage
    let quota := (calculateTextQuotaSummary env ctx info usage).quota
    0 ≤ quota ∧ quota ≤ maxQuota ∧ (billed.promptTokens = 0 → billed.completionTokens = 0 → quota = 0) ∧
    (info.priceData.modelRatio * info.priceData.groupRatioInfo.groupRatio ≠ 0 →
      0 < billed.promptTokens ∨ 0 < billed.completionTokens → 1 ≤ quota) ∧
    ∀ reported ∈ usage, ¬EstimatesWrites env info reported → ∀ more, 0 ≤ more →
      quota ≤ (calculateTextQuotaSummary env ctx info (some (moreCompletion more reported))).quota := by
  have nonneg : NonnegCounts (tokenSummary env ctx info usage) := tokenSummary_nonneg prices counts
  obtain ⟨least, most, paid⟩ := leastCharge_bounds (info.priceData.modelRatio *
    info.priceData.groupRatioInfo.groupRatio)
    (exactQuota_nonneg prices nonneg (cacheBeside info (tokenSummary env ctx info usage) usage))
  have prompt := counts.prompt
  have completion := counts.completion
  dsimp only
  refine ⟨?_, ?_, ?_, ?_, ?_⟩
  · rw [summary_quota prices.byRatio]
    split_ifs
    · exact le_rfl
    · exact least
  · rw [summary_quota prices.byRatio]
    split_ifs
    · decide
    · exact most
  · intro noPrompt noCompletion
    rw [summary_quota prices.byRatio, if_pos (by rw [tokenSummary_total, noPrompt, noCompletion]; rfl)]
  · intro costs _
    rw [summary_quota prices.byRatio, if_neg (by rw [tokenSummary_total]; omega)]
    exact paid costs
  · rintro _ ⟨⟩ given _ further
    exact quota_more prices counts given further

def routerInfo : RelayInfo :=
  { ratioInfo with
    originModelName := "gpt-4-32k"
    channelMeta := some ⟨channelTypeOpenRouter, false⟩
    priceData := { ratioPrice with modelRatio := 30, completionRatio := 1 / 10, groupRatioInfo := { groupRatio := 1 } } }

def routerEnv : RelayEnv := { ratioEnv with defaultModelRatio := fun name => if name = "gpt-4-32k" then some 30 else none }

def routerUsage : Usage := { promptTokens := 100, usageSemantic := "anthropic", cost := some (6159 / 1000000) }

theorem nonnegPrices_router : NonnegPrices routerEnv routerInfo.priceData :=
  ⟨rfl, by decide +kernel, by decide +kernel, by decide +kernel, by decide +kernel, by decide +kernel, by decide +kernel,
    by decide +kernel, by decide +kernel, by decide +kernel, fun _ _ => le_rfl⟩

theorem text_quota_bounds_custom :
    1 ≤ (calculateTextQuotaSummary ratioEnv {} { routerInfo with channelMeta := none }
    (some routerUsage)).quota ∧
    (calculateTextQuotaSummary ratioEnv {} { routerInfo with channelMeta := none } (some routerUsage)).quota ≤
      (calculateTextQuotaSummary ratioEnv {} { routerInfo with channelMeta := none }
        (some (moreCompletion 1 routerUsage))).quota := by
  have prices : NonnegPrices ratioEnv routerInfo.priceData := { nonnegPrices_router with }
  have bounds := text_quota_bounds ratioEnv {} { routerInfo with channelMeta := none } (some routerUsage) prices
    ⟨by decide, by decide, by decide, by decide, by decide, by decide, by decide⟩
  refine ⟨bounds.2.2.2.1 (by decide +kernel) (.inl (by decide)), bounds.2.2.2.2 _ rfl ?_ 1 (by decide)⟩
  rintro ⟨⟨_, ⟨⟩, _⟩, _⟩

theorem estimated_writes_lower_quota : NonnegPrices routerEnv routerInfo.priceData ∧ NonnegUsage routerUsage ∧
    (calculateTextQuotaSummary routerEnv {} routerInfo (some (moreCompletion 1 routerUsage))).quota <
      (calculateTextQuotaSummary routerEnv {} routerInfo (some routerUsage)).quota :=
  ⟨nonnegPrices_router, ⟨by decide, by decide, by decide, by decide, by decide, by decide, by decide⟩, by decide +kernel⟩

end NewApi.Proof
