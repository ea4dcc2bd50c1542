import NewApi.Proof.RelayOutput

/-! # The charge after retries -/

namespace NewApi.Proof
open Common Library Relay Controller RelayInfo
variable {env : RelayEnv} {ctx : RelayContext} {usage : Usage} {config : RelayConfig}
    {request : RelayRequest} {attempt : Attempt}
    {info chosen : RelayInfo} {start alone state : RelayState} {size : Nat}

/-! ## What settlement reads -/

def groupless (price : PriceData) :
    PriceData := { price with freeModel := false, quotaToPreConsume := 0, groupRatioInfo := {} }

/-- The relay info without what attempts set, and without what only the group decides. What was taken in advance is
only read for a snapshot. -/
def kept (info : RelayInfo) : RelayInfo :=
  { info with
    originModelName := ""
    channelMeta := none
    requestConversionChain := []
    finalRequestRelayFormat := none
    usingGroup := ""
    upstreamRequestBodySize := 0
    finalPreConsumedQuota := if info.tieredBillingSnapshot.isSome then info.finalPreConsumedQuota else 0
    priceData := groupless info.priceData }

structure SettlesAlike (one two : RelayInfo) : Prop where
  kept : kept one = kept two
  name : one.originModelName = two.originModelName
  channel : one.channelMeta = two.channelMeta
  group : one.priceData.groupRatioInfo = two.priceData.groupRatioInfo

def FormatsAgree (one two : RelayInfo) (usage : Usage) : Prop :=
  usage.usageSemantic ≠ "" ∨ (one.getFinalRequestRelayFormat = .claude ↔ two.getFinalRequestRelayFormat = .claude)

section Settlement
variable {one two : RelayInfo}

theorem alike_differ (alike : SettlesAlike one two) : ∃ chain format group size taken free quota, two = { one with
      requestConversionChain := chain
      finalRequestRelayFormat := format
      usingGroup := group
      upstreamRequestBodySize := size
      finalPreConsumedQuota := taken
      priceData := { one.priceData with freeModel := free, quotaToPreConsume := quota } } ∧
    (one.tieredBillingSnapshot.isSome → taken = one.finalPreConsumedQuota) := by
  obtain ⟨same, name, channel, group⟩ := alike
  refine ⟨two.requestConversionChain, two.finalRequestRelayFormat, two.usingGroup,
    two.upstreamRequestBodySize, two.finalPreConsumedQuota,
    two.priceData.freeModel, two.priceData.quotaToPreConsume, ?_, fun tiered => ?_⟩
  · rcases one with ⟨_, _, _, _, _, _, _, _, _, ⟨⟩⟩
    rcases two with ⟨_, _, _, _, _, _, _, _, _, ⟨⟩⟩
    simp only [kept, groupless, RelayInfo.mk.injEq, PriceData.mk.injEq] at same name channel group ⊢
    simp [same, name, channel, group]
  · have snapshot : one.tieredBillingSnapshot = two.tieredBillingSnapshot := (congrArg tieredBillingSnapshot same :)
    have taken := congrArg finalPreConsumedQuota same
    simp only [kept, ← snapshot, tiered, if_true] at taken
    exact taken.symm

theorem semantic_agrees : usageSemanticFromUsage one (some usage) =
    usageSemanticFromUsage two (some usage) ↔ FormatsAgree one two usage := by
  unfold usageSemanticFromUsage FormatsAgree
  dsimp only
  by_cases own : usage.usageSemantic ≠ ""
  · simp [own]
  · by_cases first : one.getFinalRequestRelayFormat = .claude <;> by_cases second :
      two.getFinalRequestRelayFormat = .claude <;>
      simp [own, first, second]

theorem legacy_agrees (agree : FormatsAgree one two usage) :
    isLegacyClaudeDerivedOpenAIUsage one usage = isLegacyClaudeDerivedOpenAIUsage two usage := by
  rcases agree with own | same
  · simp [isLegacyClaudeDerivedOpenAIUsage, own]
  · simp only [isLegacyClaudeDerivedOpenAIUsage, ne_eq, same]

theorem settle_alike (alike : SettlesAlike one two) (agree : FormatsAgree one two (effectiveBillingUsage usage)) :
    postTextConsumeQuota env ctx one (some usage) = postTextConsumeQuota env ctx two (some usage) := by
  obtain ⟨_, _, _, _, _, _, _, differ, paid⟩ := alike_differ alike
  have reported : reportedSummary env ctx one (some (effectiveBillingUsage usage)) =
      reportedSummary env ctx two (some (effectiveBillingUsage usage)) := by
    unfold reportedSummary
    rw [semantic_agrees.mpr agree, differ]
    rfl
  have tokens : tokenSummary env ctx one (some (effectiveBillingUsage usage)) =
      tokenSummary env ctx two (some (effectiveBillingUsage usage)) := by
    unfold tokenSummary
    rw [reported, differ]
    rfl
  have beside (summary : TextQuotaSummary) : cacheBeside one summary (some (effectiveBillingUsage usage)) =
      cacheBeside two summary (some (effectiveBillingUsage usage)) :=
    congrArg (summary.isClaudeUsageSemantic || ·) (legacy_agrees agree)
  have summarised : calculateTextQuotaSummary env ctx one (some (effectiveBillingUsage usage)) =
      calculateTextQuotaSummary env ctx two (some (effectiveBillingUsage usage)) := by
    simp only [calculateTextQuotaSummary, tokens, beside]
    rw [differ]
    rfl
  have tiered (params : TokenParams) : tryTieredSettle env one params = tryTieredSettle env two params := by
    unfold tryTieredSettle
    rw [differ]
    cases known : one.tieredBillingSnapshot with
    | none => rfl
    | some => rw [paid (by simp [known])]
  have composed (summary : TextQuotaSummary) (tieredQuota : Int) (result : Option TieredResult) :
      composeTieredTextQuota one summary tieredQuota result =
        composeTieredTextQuota two summary tieredQuota result := by
    rw [differ]
    rfl
  have snapshot : one.tieredBillingSnapshot = two.tieredBillingSnapshot := by rw [differ]
  unfold postTextConsumeQuota
  simp only [Option.map_some, summarised, tiered, composed, snapshot]

theorem summary_fields (env) (ctx : RelayContext) (info usage) :
    (calculateTextQuotaSummary env ctx info usage).usageSemantic = usageSemanticFromUsage info usage ∧
    (calculateTextQuotaSummary env ctx info usage).toolCallSurchargeQuota =
      calculateTextToolCallSurcharge env ctx info info.priceData.groupRatioInfo.groupRatio := by
  unfold calculateTextQuotaSummary tokenSummary
  dsimp only
  split_ifs <;> exact ⟨rfl, rfl⟩

theorem settled_semantic (env) (ctx : RelayContext) (info usage) :
    (postTextConsumeQuota env ctx info (some usage)).usageSemantic =
      usageSemanticFromUsage info (some (effectiveBillingUsage usage)) := by
  rw [← (summary_fields env ctx info _).1]
  unfold postTextConsumeQuota
  dsimp only [Option.map_some]
  split <;> rfl

end Settlement

/-! ## Prices for two groups -/

section Prices
variable {promptTokens : Int} {tokens : TokenCountMeta}

theorem byCall_groupless {group price setPrice} (built : modelPriceByCall env tokens group setPrice = .ok price) :
    groupless price = tokens.billingRatios.foldl (fun price entry => price.addOtherRatio entry.1 entry.2)
      { modelPrice := if tokens.imagePriceRatio ≠ 0 then setPrice *
        tokens.imagePriceRatio else setPrice, usePrice := true } := by
  unfold modelPriceByCall at built
  obtain ⟨_, -, built⟩ := except_bind_ok built
  cases built
  refine (List.foldl_hom groupless fun price entry => ?_).symm
  unfold PriceData.addOtherRatio
  split_ifs <;> rfl

theorem byRatio_groupless {one two first second group}
    (built : modelPriceByRatio env info promptTokens tokens one = .ok first)
    (again : modelPriceByRatio env { info with usingGroup := group } promptTokens tokens two = .ok second) :
    groupless first = groupless second := by
  unfold modelPriceByRatio at built again
  dsimp only at built again
  split at built
  · cases built
  · split at again
    · cases again
    · obtain ⟨_, -, built⟩ := except_bind_ok built
      obtain ⟨_, -, again⟩ := except_bind_ok again
      cases built
      cases again
      rfl

theorem tiered_groupless {one two ctx other group first second}
    (built : modelPriceHelperTiered env ctx info promptTokens tokens one = .ok first)
    (again : modelPriceHelperTiered env other { info with usingGroup := group } promptTokens tokens two = .ok second)
    (input : ctx.requestInput = other.requestInput) (ratio : one.groupRatio = two.groupRatio) :
    first.1.freeModel = second.1.freeModel ∧ first.1.quotaToPreConsume =
      second.1.quotaToPreConsume ∧ kept first.2 = kept second.2 := by
  unfold modelPriceHelperTiered at built again
  rw [input, ratio] at built
  obtain ⟨_, found, built⟩ := except_bind_ok built
  obtain ⟨_, read, built⟩ := except_bind_ok built
  obtain ⟨⟨_, _⟩, evaluated, built⟩ := except_bind_ok built
  obtain ⟨_, fits, built⟩ := except_bind_ok built
  simp only [found, read, evaluated, fits, bind, Except.bind] at again
  cases built
  cases again
  exact ⟨rfl, rfl, rfl⟩

section Helper
variable {other : RelayContext} {price price' : PriceData} {priced priced' : RelayInfo}

theorem priced_group (built : modelPriceHelper env ctx info promptTokens tokens =
    .ok (price, priced)) : priced = { info with
      usingGroup := servingGroup ctx info
      priceData := price
      tieredBillingSnapshot := priced.tieredBillingSnapshot
      billingRequestInput := priced.billingRequestInput } ∧
    price.groupRatioInfo = groupRatioOf env info (servingGroup ctx info) ∧
    (env.billingMode info.originModelName = .tieredExpr → ∃ snapshot, priced.tieredBillingSnapshot = some snapshot ∧
      snapshot.billingMode = .tieredExpr ∧ snapshot.groupRatio = price.groupRatioInfo.groupRatio) ∧
    (env.billingMode info.originModelName ≠ .tieredExpr →
      priced.tieredBillingSnapshot = info.tieredBillingSnapshot) := by
  unfold modelPriceHelper handleGroupRatio at built
  dsimp only at built
  split_ifs at built with tiered
  · obtain ⟨snapshot, _, ratio, mode, same, rfl⟩ := tiered_built built
    have group : price.groupRatioInfo = groupRatioOf env info (servingGroup ctx info) := by rw [same]
    exact ⟨rfl, group, fun _ => ⟨snapshot, rfl, mode, by rw [ratio, group]⟩, fun other => absurd tiered other⟩
  · split at built
    · obtain ⟨_, looked, built⟩ := except_bind_ok built
      cases built
      exact ⟨rfl, (byCall_built looked).2, fun mode => absurd mode tiered, fun _ => rfl⟩
    · obtain ⟨_, looked, built⟩ := except_bind_ok built
      cases built
      exact ⟨rfl, (byRatio_built looked).1, fun mode => absurd mode tiered, fun _ => rfl⟩

theorem priced_kept (built : modelPriceHelper env ctx info promptTokens tokens = .ok (price, priced))
    (again : modelPriceHelper env other info promptTokens tokens = .ok (price', priced'))
    (input : ctx.requestInput = other.requestInput)
    (ratio : env.billingMode info.originModelName = .tieredExpr →
      (groupRatioOf env info (servingGroup ctx info)).groupRatio =
        (groupRatioOf env info (servingGroup other info)).groupRatio) :
    kept priced = kept priced' ∧ (env.billingMode info.originModelName = .tieredExpr →
      price.freeModel = price'.freeModel ∧ price.quotaToPreConsume = price'.quotaToPreConsume) := by
  unfold modelPriceHelper handleGroupRatio at built again
  dsimp only at built again
  split_ifs at built again with tiered
  · obtain ⟨free, quota, same⟩ := tiered_groupless built again input (ratio tiered)
    exact ⟨same, fun _ => ⟨free, quota⟩⟩
  · refine ⟨?_, fun mode => absurd mode tiered⟩
    cases known : env.modelPrice info.originModelName with
    | some | none =>
      rw [known] at built again
      obtain ⟨_, looked, built⟩ := except_bind_ok built
      obtain ⟨_, looked', again⟩ := except_bind_ok again
      cases built
      cases again
      unfold kept
      first | rw [(byCall_groupless looked).trans
        (byCall_groupless looked').symm] | rw [byRatio_groupless looked looked']

end Helper

end Prices

/-! ## The start of a request -/

def ratioFor (config : RelayConfig) (request : RelayRequest) (autoGroup : Option String) : GroupRatioInfo :=
  groupRatioOf config.env (genRelayInfo request) (autoGroup.getD request.usingGroup)

section Start
variable {one two : Option String}

theorem start_built (started : startRelay config request one = .ok start) : ∃ price priced,
    modelPriceHelper config.env { autoGroup := one, requestInput := request.input }
      (genRelayInfo request) request.promptTokens
      request.tokens = .ok (price, priced) ∧ start = {
      ctx := { autoGroup := one, requestInput := request.input }
      info := { priced with finalPreConsumedQuota :=
        if price.freeModel then 0 else request.preConsumed price.quotaToPreConsume } } := by
  unfold startRelay at started
  obtain ⟨⟨price, priced⟩, built, rest⟩ := except_bind_ok started
  cases rest
  exact ⟨price, priced, built, rfl⟩

theorem start_kept (started : startRelay config request one = .ok start)
    (restarted : startRelay config request two = .ok alone)
    (ratio : config.env.billingMode request.originModelName = .tieredExpr →
      (ratioFor config request one).groupRatio = (ratioFor config request two).groupRatio) :
    kept start.info = kept alone.info := by
  obtain ⟨_, priced, built, rfl⟩ := start_built started
  obtain ⟨_, priced', again, rfl⟩ := start_built restarted
  obtain ⟨same, estimate⟩ := priced_kept built again rfl ratio
  have taken (info : RelayInfo) (taken : Int) : kept { info with finalPreConsumedQuota := taken } =
      { kept info with finalPreConsumedQuota := if (kept info).tieredBillingSnapshot.isSome then taken else 0 } := rfl
  rw [taken priced, taken priced', same]
  by_cases tiered : config.env.billingMode request.originModelName = .tieredExpr
  · obtain ⟨free, quota⟩ := estimate tiered
    rw [free, quota]
  · -- Without a snapshot what was taken is not kept.
    have untiered := (priced_group again).2.2.2 tiered
    simp [kept, untiered, genRelayInfo]

end Start

/-! ## What attempts touch -/

def billedName (request : RelayRequest) (name : String) : String :=
  if request.relayFormat = .gemini then noThinkingModelName request name else name

def sentFormat (config : RelayConfig) (attempt : Attempt) (info : RelayInfo) : RelayFormat :=
  if config.passThroughRequestEnabled || attempt.channel.passThroughBodyEnabled then info.getFinalRequestRelayFormat
  else (attempt.formats.foldl appendRequestConversion info).getFinalRequestRelayFormat

structure Touched (request : RelayRequest) (before after : RelayInfo) : Prop where
  kept : kept after = kept before
  name : billedName request after.originModelName = billedName request before.originModelName
  group : after.priceData.groupRatioInfo = before.priceData.groupRatioInfo
  serving : after.usingGroup = before.usingGroup

section Attempts
variable {stores : Bool}

theorem billedModel_name (info) : billedModel request info =
    { info with originModelName := billedName request info.originModelName } := by
  unfold billedModel billedName
  split_ifs <;> rfl

theorem billedName_again (name : String) : billedName request (billedName request name) = billedName request name := by
  have infix_last : "-nothinking".toList <:+: (name ++ "-nothinking").toList := by
    rw [String.toList_append]
    exact (List.suffix_append _ _).isInfix
  unfold billedName noThinkingModelName
  split_ifs <;> simp_all

def appendFormat (chain : List RelayFormat) (format : RelayFormat) : List RelayFormat :=
  if chain.getLast? = some format then chain else chain ++ [format]

theorem appended_chain (formats : List RelayFormat) (info : RelayInfo) : formats.foldl appendRequestConversion info =
    { info with requestConversionChain := formats.foldl appendFormat info.requestConversionChain } := by
  induction formats generalizing info with
  | nil => rfl
  | cons _ _ ih =>
    rw [List.foldl_cons, ih, List.foldl_cons]
    unfold appendRequestConversion appendFormat
    split_ifs <;> rfl

variable (config request attempt info stores) in
theorem chooseBody_touches :
    Touched request info (chooseBody stores (billedModel request) config.passThroughRequestEnabled
      request attempt info).1 := by
  unfold chooseBody
  simp only [billedModel_name, appended_chain]
  cases attempt.rejected with
  | some => exact ⟨rfl, rfl, rfl, rfl⟩
  | none =>
    dsimp only
    split_ifs
    · exact ⟨rfl, billedName_again _, rfl, rfl⟩
    · exact ⟨rfl, billedName_again _, rfl, rfl⟩
    · cases attempt.converted <;> exact ⟨rfl, billedName_again _, rfl, rfl⟩

theorem chooseBody_ok
    (chose : chooseBody stores (billedModel request) config.passThroughRequestEnabled request
    attempt info = (chosen, .ok size)) :
    (chosen.originModelName = billedName request info.originModelName ∧ chosen.channelMeta = some attempt.channel ∧
      chosen.getFinalRequestRelayFormat = sentFormat config attempt info) ∧ ∀ other, ∃ chosen',
        chooseBody stores (billedModel request) config.passThroughRequestEnabled request attempt
          other = (chosen', .ok size) := by
  unfold chooseBody at chose ⊢
  unfold sentFormat
  simp only [billedModel_name, appended_chain] at chose ⊢
  cases rejected : attempt.rejected with
  | some => simp [rejected] at chose
  | none =>
    simp only [rejected] at chose
    split_ifs at chose ⊢
    · cases chose
      exact ⟨⟨rfl, rfl, rfl⟩, fun _ => ⟨_, rfl⟩⟩
    · cases chose
      exact ⟨⟨rfl, rfl, rfl⟩, fun _ => ⟨_, rfl⟩⟩
    · cases converted : attempt.converted with
      | error => simp [converted] at chose
      | ok =>
        simp only [converted] at chose
        cases chose
        exact ⟨⟨rfl, rfl, rfl⟩, fun _ => ⟨_, rfl⟩⟩

theorem answered_touches (claude : Bool) (info) : Touched request info (answeredInfo claude info) := by
  unfold answeredInfo
  split_ifs <;> exact ⟨rfl, rfl, rfl, rfl⟩

theorem Touched.trans {one two three} (first : Touched request one two) (second : Touched request two three) :
    Touched request one three :=
  ⟨second.kept.trans first.kept, second.name.trans first.name, second.group.trans first.group,
    second.serving.trans first.serving⟩

end Attempts

/-! ## What failed attempts leave behind -/

structure Carried (config : RelayConfig) (request : RelayRequest) (start : RelayState)
    (ctx : RelayContext) (info : RelayInfo) : Prop where
  kept : kept info = kept start.info
  context : ctx = { start.ctx with autoGroup := ctx.autoGroup }
  name : billedName request info.originModelName = billedName request request.originModelName
  user : info.userGroup = request.userGroup
  group : info.priceData.groupRatioInfo = ratioFor config request ctx.autoGroup
  unset : ctx.autoGroup = none → info.usingGroup = request.usingGroup

section Loop
variable {first : Option String} {input : Selection × Attempt} {after : RelayInfo} {claude : Bool} {reply : Reply}
    {summary : TextQuotaSummary}

theorem start_carried (started : startRelay config request first = .ok start) :
    Carried config request start start.ctx start.info := by
  obtain ⟨_, _, built, rfl⟩ := start_built started
  obtain ⟨same, group, -⟩ := priced_group built
  rw [same]
  exact ⟨rfl, rfl, rfl, rfl, group, fun unset => by simp only at unset; simp [servingGroup, unset, genRelayInfo]⟩

theorem carried_touched (carried : Carried config request start ctx info) (touched : Touched request info after) :
    Carried config request start ctx after where
  kept := touched.kept.trans carried.kept
  context := carried.context
  name := touched.name.trans carried.name
  user := (congrArg userGroup touched.kept :).trans carried.user
  group := touched.group.trans carried.group
  unset unset := touched.serving.trans (carried.unset unset)

theorem carried_channel (selection) (carried : Carried config request start state.ctx state.info) :
    Carried config request start (getChannel config.env selection state).1.ctx
      (getChannel config.env selection state).1.info := by
  unfold getChannel
  cases state.info.channelMeta with
  | none => exact carried
  | some =>
    have serving : (selection.autoGroup.or state.ctx.autoGroup).getD state.info.usingGroup =
        (selection.autoGroup.or state.ctx.autoGroup).getD request.usingGroup := by
      cases group : selection.autoGroup.or state.ctx.autoGroup with
      | some => rfl
      | none => exact carried.unset (by simp_all [Option.or_eq_none_iff])
    refine ⟨carried.kept, ?_, carried.name, carried.user, ?_, fun unset => ?_⟩
    · rw [carried.context]
    · simp only [handleGroupRatio, servingGroup, serving, ratioFor, groupRatioOf, carried.user]
      rfl
    · simp only at unset
      simpa only [unset, handleGroupRatio, servingGroup, Option.getD_none] using serving

theorem attempted_error {err} (failed : (attempted config request state input).result = .error err) :
    (attempted config request state input).ctx = (getChannel config.env input.1 state).1.ctx ∧
    Touched request (getChannel config.env input.1 state).1.info (attempted config request state input).info := by
  unfold attempted relayHelper at failed ⊢
  have touched : Touched request _ (chosenBody config request state input).1 :=
    chooseBody_touches config request input.2 _ _
  rcases chose : chosenBody config request state input with ⟨chosen, err' | size⟩
  · rw [chose] at touched
    simpa only [chose, true_and] using touched
  · rw [chose] at touched
    simp only [chose] at failed ⊢
    obtain ⟨sameContext, claude, sameInfo⟩ := doRequest_error failed
    rw [sameInfo]
    exact ⟨sameContext, touched.trans (answered_touches claude chosen)⟩

theorem carried_step (carried : state.outcome = none → Carried config request start state.ctx state.info)
    (going : (relayStep config request state input).outcome = none) :
    Carried config request start (relayStep config request state input).ctx
      (relayStep config request state input).info := by
  cases decided : state.outcome with
  | some =>
    rw [step_over decided, decided] at going
    cases going
  | none =>
    cases selected : (getChannel config.env input.1 state).2 with
    | some =>
      rw [step_unselected decided selected] at going
      cases going
    | none =>
      rw [step_attempted decided selected] at going ⊢
      obtain ⟨sameContext, sameInfo, -⟩ := after_fields config
        (attempted config request state input) (getChannel config.env input.1 state).1
      cases result : (attempted config request state input).result with
      | ok =>
        rw [after_ok result] at going
        cases going
      | error =>
        obtain ⟨context, touched⟩ := attempted_error result
        rw [sameContext, sameInfo, context]
        exact carried_touched (carried_channel input.1 (carried decided)) touched

theorem carried_run (started : startRelay config request first = .ok start) (failed : List (Selection × Attempt))
    (going : (relay config request start failed).outcome = none) :
    Carried config request start (relay config request start failed).ctx (relay config request start failed).info :=
  run_preserves (fun state : RelayState => state.outcome = none → Carried config request start state.ctx state.info)
    (fun _ _ carried => carried_step carried) (fun _ => start_carried started) failed going

theorem attempt_settled (going : state.outcome = none)
    (settled : (relayStep config request state input).outcome = some (.ok summary)) :
    (getChannel config.env input.1 state).2 = none ∧ ∃ chosen size,
      chosenBody config request state input = (chosen, .ok size) := by
  cases selected : (getChannel config.env input.1 state).2 with
  | some =>
    rw [step_unselected going selected] at settled
    cases settled
  | none =>
    refine ⟨rfl, ?_⟩
    rw [step_attempted going selected] at settled
    rcases chose : chosenBody config request state input with ⟨chosen, err | size⟩
    · have failed : (attempted config request state input).result = .error err := by
        simp [attempted, relayHelper, chose]
      have still := (getChannel_fields config.env input.1 state).1.trans going
      rcases after_error still failed with none | ⟨last, error⟩
      · exact absurd (none.symm.trans settled) (by simp)
      · exact absurd (error.symm.trans settled) (by simp)
    · exact ⟨chosen, size, rfl⟩

theorem attempt_settles {chosen size} (going : state.outcome = none)
    (selected : (getChannel config.env input.1 state).2 = none)
    (chose : chosenBody config request state input = (chosen, .ok size))
    (replied : replyOf input.2 = some (claude, reply)) :
    (relayStep config request state input).ctx =
      (applyReply reply (getChannel config.env input.1 state).1.ctx chosen).1 ∧
    (relayStep config request state input).info =
      (applyReply reply (getChannel config.env input.1 state).1.ctx (answeredInfo claude chosen)).2 ∧
    (relayStep config request state input).outcome = some
      (.ok (postTextConsumeQuota config.env (relayStep config request state input).ctx
      (relayStep config request state input).info (some reply.usage))) := by
  have done : attempted config request state input = doRequest input.2 size
    (getChannel config.env input.1 state).1.ctx chosen := by
    simp [attempted, relayHelper, chose]
  have ok : (attempted config request state input).result = .ok reply.usage := by
    rw [done]
    exact doRequest_ok.mpr ⟨claude, reply, replied, rfl⟩
  obtain ⟨sameContext, sameInfo, -⟩ := after_fields config (attempted config request state input)
    (getChannel config.env input.1 state).1
  rw [step_attempted going selected, sameContext, sameInfo, after_ok ok, done]
  exact ⟨(doRequest_reply replied).1, (doRequest_reply replied).2, rfl⟩

theorem reply_kept (ctx : RelayContext) (info) : kept (applyReply reply ctx (answeredInfo claude info)).2 =
    { kept info with builtInTools := (kept info).builtInTools.map fun tools => reply.calls.foldl countCall tools } := by
  cases claude <;> rfl

theorem reply_fields (ctx : RelayContext) (info) :
    (applyReply reply ctx (answeredInfo claude info)).2.originModelName = info.originModelName ∧
    (applyReply reply ctx (answeredInfo claude info)).2.channelMeta = info.channelMeta ∧
    (applyReply reply ctx (answeredInfo claude info)).2.priceData = info.priceData ∧
    (applyReply reply ctx (answeredInfo claude info)).2.tieredBillingSnapshot = info.tieredBillingSnapshot := by
  cases claude <;> exact ⟨rfl, rfl, rfl, rfl⟩

theorem reply_format (ctx : RelayContext) (info) :
    (applyReply reply ctx (answeredInfo claude info)).2.getFinalRequestRelayFormat = .claude ↔
      claude = true ∨ info.getFinalRequestRelayFormat = .claude := by
  cases claude <;> simp [answeredInfo, applyReply, getFinalRequestRelayFormat]

structure ReplySettled (config : RelayConfig) (request : RelayRequest) (attempt : Attempt)
    (claude : Bool) (reply : Reply)
    (start served final : RelayState) (chosen : RelayInfo) (size : Nat) (summary : TextQuotaSummary) : Prop where
  carried : Carried config request start served.ctx served.info
  chose : chooseBody (request.relayFormat = .claude) (billedModel request)
    config.passThroughRequestEnabled request attempt served.info =
    (chosen, .ok size)
  context : final.ctx = (applyReply reply served.ctx chosen).1
  info : final.info = (applyReply reply served.ctx (answeredInfo claude chosen)).2
  charged : summary = postTextConsumeQuota config.env final.ctx final.info (some reply.usage)

theorem settled_run (started : startRelay config request first = .ok start) (failed : List (Selection × Attempt))
    (going : (relay config request start failed).outcome = none)
    (settled : (relay config request start (failed ++ [input])).outcome = some (.ok summary))
    (replied : replyOf input.2 = some (claude, reply)) :
    ∃ chosen size, ReplySettled config request input.2 claude reply start
      (getChannel config.env input.1 (relay config request start failed)).1
      (relay config request start (failed ++ [input])) chosen size summary := by
  have final : relay config request start (failed ++ [input]) =
    relayStep config request (relay config request start failed) input := by
    simp [relay, run_append, run]
  rw [final] at settled ⊢
  obtain ⟨selected, chosen, size, chose⟩ := attempt_settled going settled
  obtain ⟨context, info, outcome⟩ := attempt_settles going selected chose replied
  exact ⟨chosen, size, carried_channel input.1 (carried_run started failed going), chose, context, info,
    Except.ok.inj (Option.mem_unique settled outcome)⟩

section Two
variable {served final served' final' : RelayState} {chosen' : RelayInfo} {size' : Nat} {summary' : TextQuotaSummary}

theorem settles_group (settles : ReplySettled config request attempt claude reply start served final
    chosen size summary) :
    final.ctx.autoGroup = served.ctx.autoGroup ∧ final.info.priceData.groupRatioInfo =
      ratioFor config request final.ctx.autoGroup ∧
    final.info.tieredBillingSnapshot = start.info.tieredBillingSnapshot := by
  have touched := chooseBody_touches config request attempt served.info (request.relayFormat = .claude)
  rw [settles.chose] at touched
  rw [settles.info, settles.context, (reply_fields _ _).2.2.1, (reply_fields _ _).2.2.2,
    touched.group, settles.carried.group]
  exact ⟨rfl, rfl, (congrArg tieredBillingSnapshot (touched.kept.trans settles.carried.kept) :)⟩

variable (one : ReplySettled config request attempt claude reply start served final chosen size summary)
    (two : ReplySettled config request attempt claude reply alone served' final' chosen' size' summary')

include one two

theorem settles_alike
    (same : kept start.info = kept alone.info) (group : served.ctx.autoGroup =
    served'.ctx.autoGroup) : SettlesAlike final.info final'.info := by
  have touched := chooseBody_touches config request attempt served.info (request.relayFormat = .claude)
  have touched' := chooseBody_touches config request attempt served'.info (request.relayFormat = .claude)
  rw [one.chose] at touched
  rw [two.chose] at touched'
  obtain ⟨⟨name, channel, -⟩, -⟩ := chooseBody_ok one.chose
  obtain ⟨⟨name', channel', -⟩, -⟩ := chooseBody_ok two.chose
  rw [one.info, two.info]
  refine ⟨?_, ?_, ?_, ?_⟩
  · rw [reply_kept, reply_kept, touched.kept, touched'.kept, one.carried.kept, two.carried.kept, same]
  · rw [(reply_fields _ _).1, (reply_fields _ _).1, name, name', one.carried.name, two.carried.name]
  · rw [(reply_fields _ _).2.1, (reply_fields _ _).2.1, channel, channel']
  · rw [(reply_fields _ _).2.2.1, (reply_fields _ _).2.2.1, touched.group, touched'.group,
      one.carried.group, two.carried.group, group]

theorem settles_formats (usage) : FormatsAgree final.info final'.info usage ↔ usage.usageSemantic ≠ "" ∨ claude = true ∨
      (sentFormat config attempt served.info = .claude ↔ sentFormat config attempt served'.info = .claude) := by
  rw [one.info, two.info, FormatsAgree, reply_format, reply_format, (chooseBody_ok one.chose).1.2.2,
    (chooseBody_ok two.chose).1.2.2]
  cases claude <;> simp

theorem settles_same (same : kept start.info = kept alone.info) (context : served.ctx = served'.ctx) :
    summary' = summary ↔ (effectiveBillingUsage reply.usage).usageSemantic ≠ "" ∨ claude = true ∨
      (sentFormat config attempt served.info = .claude ↔ sentFormat config attempt served'.info = .claude) := by
  have contexts : final.ctx = final'.ctx := by
    rw [one.context, two.context, context]
    rfl
  rw [← settles_formats one two, one.charged, two.charged, contexts]
  constructor
  · intro charges
    have semantic := congrArg TextQuotaSummary.usageSemantic charges
    rw [settled_semantic, settled_semantic] at semantic
    exact semantic_agrees.mp semantic.symm
  · intro agree
    rw [settle_alike (settles_alike one two same (by rw [context])) agree]

end Two

end Loop

/-! ## Transparency -/

/-- The usage says how it counts the cache, or Claude's adaptor answers, or the formats left by
failed attempts do not change how settlement reads it. -/
def ReadAlike (config : RelayConfig) (request : RelayRequest) (before : RelayState)
    (attempt : Attempt) (claude : Bool) (usage : Usage) : Prop :=
  (effectiveBillingUsage usage).usageSemantic ≠ "" ∨ claude = true ∨
    (sentFormat config attempt before.info = .claude ↔ sentFormat config attempt (genRelayInfo request) = .claude)

section Transparency
variable {group : Option String} {other : RelayInfo}

theorem start_info (started : startRelay config request group = .ok start) :
    start.ctx = { autoGroup := group, requestInput := request.input } ∧ start.info.channelMeta = none ∧
    start.info.relayFormat = request.relayFormat ∧ start.info.requestConversionChain = [request.relayFormat] ∧
    start.info.finalRequestRelayFormat = none := by
  obtain ⟨_, _, built, rfl⟩ := start_built started
  rw [(priced_group built).1]
  exact ⟨rfl, rfl, rfl, rfl, rfl⟩

theorem sentFormat_same (format : info.relayFormat = other.relayFormat)
    (chain : info.requestConversionChain = other.requestConversionChain)
    (final : info.finalRequestRelayFormat = other.finalRequestRelayFormat) :
    sentFormat config attempt info = sentFormat config attempt other := by
  simp only [sentFormat, appended_chain, getFinalRequestRelayFormat, format, chain, final]

theorem sentFormat_channel (selection) :
    sentFormat config attempt (getChannel env selection state).1.info = sentFormat config attempt state.info := by
  unfold getChannel
  cases state.info.channelMeta with
  | none => rfl
  | some => exact sentFormat_same rfl rfl rfl

theorem sentFormat_start (started : startRelay config request group = .ok start) :
    sentFormat config attempt start.info = sentFormat config attempt (genRelayInfo request) := by
  obtain ⟨-, -, format, chain, final⟩ := start_info started
  exact sentFormat_same format chain final

end Transparency

def tieredEnv : RelayEnv := { ratioEnv with
  groupRatio := fun group => if group = "second" then 2 else 1
  toolPriceForModel := fun tool _ => if tool = "web_search" then 10 else 0
  billingMode := fun _ => .tieredExpr
  billingExpr := fun _ => some "2 * p"
  runExpr := fun _ params _ => .ok (2 * params.p, "base") }

def tieredConfig : RelayConfig := { env := tieredEnv, policy := { retryTimes := 1 } }

def autoRequest : RelayRequest := { chatRequest with usingGroup := "auto" }

def refusedBy (channel : ChannelMeta) : Selection × Attempt :=
  ({}, { channel := channel, answer := .refused false { errorCode := "overloaded_error" } })

def searchedIn (group : String) : Selection × Attempt :=
  ({ autoGroup := some group }, {
    channel := passingChannel
    answer := .answered false false
      (.plain (.ok { usage := { promptTokens := 100, completionTokens := 10 }, webSearchRequests := 1 })) })

def startOf (config : RelayConfig) (request : RelayRequest) (group : Option String) : RelayState :=
  (startRelay config request group).toOption.getD { ctx := {}, info := genRelayInfo request }

theorem startOf_ok {config request group} (ok : (startRelay config request group).isOk = true) :
    startRelay config request group = .ok (startOf config request group) := by
  unfold startOf
  cases started : startRelay config request group with
  | ok => rfl
  | error =>
    rw [started] at ok
    contradiction

def searchSummary (surcharge : Rat) (quota : Int) : TextQuotaSummary where
  promptTokens := 100
  completionTokens := 10
  totalTokens := 110
  cacheTokens := 0
  cacheCreationTokens := 0
  cacheCreationTokens5m := 0
  cacheCreationTokens1h := 0
  imageTokens := 0
  audioTokens := 0
  usageSemantic := "openai"
  toolCallSurchargeQuota := surcharge
  quota := quota

theorem regrouped_settles : (relay tieredConfig autoRequest (startOf tieredConfig autoRequest (some "first"))
    ([refusedBy passingChannel] ++ [searchedIn "third"])).outcome =
      some (.ok (searchSummary 5000 5100)) := by decide +kernel

def cachedBy (channel : ChannelMeta) : Selection × Attempt :=
  ({}, {
    channel := channel
    formats := [.openai]
    answer := .answered false false
      (.plain (.ok { usage := { promptTokens := 100, completionTokens := 10, promptTokensDetails :=
        { cachedTokens := 40 } } })) })

def openaiChannel : ChannelMeta := ⟨1, false⟩

def tierCost (env : RelayEnv) (info : RelayInfo) (summary : TextQuotaSummary) (usage : Usage) : Option Rat := do
  let snapshot ← info.tieredBillingSnapshot
  let params := buildTieredTokenParams (effectiveBillingUsage usage) summary.isClaudeUsageSemantic
    (env.usedVars snapshot.exprString)
  let result ← (computeTieredQuotaWithRequest env snapshot params (info.billingRequestInput.getD {})).toOption
  return result.actualQuotaBeforeGroup

theorem roundings_agree (value : Rat) : (quotaRoundChecked value).1 = (quotaFromDecimalChecked value).1 := by
  unfold quotaRoundChecked quotaFromDecimalChecked saturateQuota
  dsimp only
  split_ifs <;> rfl

theorem computed_charge {env snapshot params input result}
    (computed : computeTieredQuotaWithRequest env snapshot params input = .ok result) :
    result.actualQuotaAfterGroup =
      (quotaFromDecimalChecked (float64Mul result.actualQuotaBeforeGroup snapshot.groupRatio)).1 := by
  unfold computeTieredQuotaWithRequest at computed
  obtain ⟨⟨_, _⟩, -, computed⟩ := except_bind_ok computed
  cases computed
  exact roundings_agree _

/-- Without a surcharge the ratio is multiplied in float64, with one exactly. -/
def chargedAmount (cost ratio surcharge : Rat) : Rat :=
  if surcharge = 0 then float64Mul cost ratio else cost * ratio + surcharge

theorem composed_charge {info snapshot result} (summary) (taken : info.tieredBillingSnapshot = some snapshot)
    (charge : result.actualQuotaAfterGroup =
      (quotaFromDecimalChecked (float64Mul result.actualQuotaBeforeGroup snapshot.groupRatio)).1) :
    composeTieredTextQuota info summary result.actualQuotaAfterGroup (some result) =
      (quotaFromDecimalChecked (chargedAmount result.actualQuotaBeforeGroup snapshot.groupRatio
        summary.toolCallSurchargeQuota)).1 := by
  by_cases none : summary.toolCallSurchargeQuota = 0
  · simp [composeTieredTextQuota, composedQuota, chargedAmount, none, charge]
  · simp [composeTieredTextQuota, composedQuota, chargedAmount, none, taken]

theorem chargedAmount_eq_iff (cost firstRatio tools ratio : Rat) :
    chargedAmount cost firstRatio (tools * ratio) = (cost + tools) * ratio ↔
      if tools * ratio = 0 then float64Mul cost firstRatio = cost * ratio
      else cost = 0 ∨ firstRatio = ratio := by
  unfold chargedAmount
  split_ifs with none
  · rw [add_mul, none, add_zero]
  · rw [add_mul, add_left_inj, mul_eq_mul_left_iff, or_comm]

theorem tiered_charge {env ctx info usage snapshot cost}
    (taken : info.tieredBillingSnapshot = some snapshot) (tiered : snapshot.billingMode = .tieredExpr)
    (evaluated : tierCost env info (postTextConsumeQuota env ctx info (some usage)) usage = some cost) :
    (postTextConsumeQuota env ctx info (some usage)).quota =
      (quotaFromDecimalChecked (chargedAmount cost snapshot.groupRatio
        (calculateTextToolCallSurcharge env ctx info info.priceData.groupRatioInfo.groupRatio))).1 := by
  have semantic : (postTextConsumeQuota env ctx info (some usage)).isClaudeUsageSemantic =
      (calculateTextQuotaSummary env ctx info (some (effectiveBillingUsage usage))).isClaudeUsageSemantic := by
    simp only [TextQuotaSummary.isClaudeUsageSemantic, settled_semantic, (summary_fields env ctx info _).1]
  rw [tierCost, taken, semantic] at evaluated
  cases computed : computeTieredQuotaWithRequest env snapshot (buildTieredTokenParams (effectiveBillingUsage usage)
      (calculateTextQuotaSummary env ctx info
        (some (effectiveBillingUsage usage))).isClaudeUsageSemantic (env.usedVars snapshot.exprString))
      (info.billingRequestInput.getD {}) with
  | error => simp [computed, Except.toOption] at evaluated
  | ok result =>
    have known : result.actualQuotaBeforeGroup = cost := by simpa [computed, Except.toOption] using evaluated
    rw [← known, ← (summary_fields env ctx info (some (effectiveBillingUsage usage))).2,
      ← composed_charge _ taken (computed_charge computed)]
    simp [postTextConsumeQuota, taken, tryTieredSettle, tiered, computed]

def toolCost (env : RelayEnv) (ctx : RelayContext) (info : RelayInfo) :
    Rat := toolCallPrice env ctx info * env.quotaPerUnit

theorem start_snapshot {config request group start}
    (started : startRelay config request group = .ok start)
    (tiered : config.env.billingMode request.originModelName = .tieredExpr) :
    ∃ snapshot, start.info.tieredBillingSnapshot = some snapshot ∧ snapshot.billingMode = .tieredExpr ∧
      snapshot.groupRatio = (ratioFor config request group).groupRatio := by
  obtain ⟨_, _, built, rfl⟩ := start_built started
  obtain ⟨-, group, snapshot, -⟩ := priced_group built
  obtain ⟨snapshot, taken, mode, ratio⟩ := snapshot tiered
  exact ⟨snapshot, taken, mode, by rw [ratio, group]; rfl⟩

end NewApi.Proof
