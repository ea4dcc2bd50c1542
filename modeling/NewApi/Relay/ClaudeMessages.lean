import NewApi.Relay.Usage

/-!
# Usage of Claude messages

A stream reports its usage with `message_start` and again with `message_delta`; both keep a billing
usage beside the running one. When it has ended, missing counts are made up from the text that was
streamed.
-/

namespace NewApi.Relay

structure ClaudeMessage where
  model : String
  usage : Option ClaudeUsage

structure ClaudeDelta where
  (text thinking : Option String := none)

structure ClaudeResponse where
  type : String
  message : Option ClaudeMessage := none
  delta : Option ClaudeDelta := none
  usage : Option ClaudeUsage := none

structure ClaudeResponseInfo where
  usage : Usage := {}
  responseText : String := ""
  done : Bool := false

def normalizeCacheCreationSplit (totalTokens tokens5m tokens1h : Int) : Int × Int :=
  let remainder := totalTokens - tokens5m - tokens1h
  (tokens5m + (if remainder < 0 then 0 else remainder), tokens1h)

variable (usage : Usage)

def claudeBillingUsageFromSemanticUsage : Option BillingUsage :=
  let split := normalizeCacheCreationSplit usage.promptTokensDetails.cachedCreationTokens
    usage.claudeCacheCreation5mTokens
    usage.claudeCacheCreation1hTokens
  newClaudeMessagesBillingUsage {
    inputTokens := usage.promptTokens
    cacheCreationInputTokens := usage.promptTokensDetails.cachedCreationTokens
    cacheReadInputTokens := usage.promptTokensDetails.cachedTokens
    outputTokens := usage.completionTokens
    cacheCreation := if 0 < split.1 ∨ 0 < split.2 then some ⟨split.1, split.2⟩ else none }

def cacheCreationTokensForOpenAIUsage : Int :=
  let splitCacheCreationTokens := usage.claudeCacheCreation5mTokens + usage.claudeCacheCreation1hTokens
  let cachedCreationTokens := usage.promptTokensDetails.cachedCreationTokens
  if splitCacheCreationTokens = 0 then cachedCreationTokens
  else if splitCacheCreationTokens < cachedCreationTokens then cachedCreationTokens
  else splitCacheCreationTokens

def buildOpenAIStyleUsageFromClaudeUsage : Usage :=
  let details := usage.promptTokensDetails
  let split := normalizeCacheCreationSplit details.cachedCreationTokens
    usage.claudeCacheCreation5mTokens usage.claudeCacheCreation1hTokens
  let cacheCreationTokens := cacheCreationTokensForOpenAIUsage usage
  let totalInputTokens := usage.promptTokens + details.cachedTokens + cacheCreationTokens
  { usage with
    claudeCacheCreation5mTokens := split.1
    claudeCacheCreation1hTokens := split.2
    promptTokensDetails := { details with cacheWriteTokens := cacheCreationTokens }
    promptTokens := totalInputTokens
    inputTokens := totalInputTokens
    totalTokens := totalInputTokens + usage.completionTokens
    usageSemantic := "openai"
    usageSource := "anthropic" }

def startUsage (reported : ClaudeUsage) : Usage :=
  let usage : Usage := {
    usage with
    promptTokens := reported.inputTokens
    usageSemantic := "anthropic"
    promptTokensDetails := {
      usage.promptTokensDetails with
      cachedTokens := reported.cacheReadInputTokens
      cachedCreationTokens := reported.cacheCreationInputTokens }
    claudeCacheCreation5mTokens := reported.getCacheCreation5mTokens
    claudeCacheCreation1hTokens := reported.getCacheCreation1hTokens
    completionTokens := reported.outputTokens }
  { usage with billingUsage := claudeBillingUsageFromSemanticUsage usage }

def positiveOr (reported kept : Int) : Int := if 0 < reported then reported else kept

def deltaUsage (reported : ClaudeUsage) : Usage :=
  let prompt := positiveOr reported.inputTokens usage.promptTokens
  let completion := positiveOr reported.outputTokens usage.completionTokens
  let usage : Usage := {
    usage with
    promptTokens := prompt
    completionTokens := completion
    totalTokens := prompt + completion
    usageSemantic := "anthropic"
    promptTokensDetails := {
      usage.promptTokensDetails with
      cachedTokens := positiveOr reported.cacheReadInputTokens usage.promptTokensDetails.cachedTokens
      cachedCreationTokens := positiveOr reported.cacheCreationInputTokens
        usage.promptTokensDetails.cachedCreationTokens }
    claudeCacheCreation5mTokens := positiveOr reported.getCacheCreation5mTokens usage.claudeCacheCreation5mTokens
    claudeCacheCreation1hTokens := positiveOr reported.getCacheCreation1hTokens usage.claudeCacheCreation1hTokens }
  { usage with billingUsage := claudeBillingUsageFromSemanticUsage usage }

def formatClaudeResponseInfo (response : ClaudeResponse) (info : ClaudeResponseInfo) : Bool × ClaudeResponseInfo :=
  if response.type = "message_start" then
    match response.message.bind (·.usage) with
    | some reported => (true, { info with usage := startUsage info.usage reported })
    | none => (true, info)
  else if response.type = "content_block_delta" then
    match response.delta with
    | some delta =>
        (true, { info with responseText := info.responseText ++ delta.text.getD "" ++
        delta.thinking.getD "" })
    | none => (true, info)
  else if response.type = "message_delta" then
    match response.usage with
    | some reported => (true, { info with usage := deltaUsage info.usage reported, done := true })
    | none => (true, { info with done := true })
  else if response.type = "content_block_start" then (true, info)
  else (false, info)

def collectStream (events : List ClaudeResponse) : ClaudeResponseInfo :=
  events.foldl (fun info response => (formatClaudeResponseInfo response info).2) {}

def buildMessageDeltaPatchUsage (reported : Option ClaudeUsage) (info : ClaudeResponseInfo) : ClaudeUsage :=
  let usage := reported.getD {}
  let orKept (value kept : Int) : Int := if value = 0 ∧ 0 < kept then kept else value
  let creation := orKept usage.cacheCreationInputTokens info.usage.promptTokensDetails.cachedCreationTokens
  let shares := match usage.cacheCreation with
    | some shares => shares
    | none => ⟨info.usage.claudeCacheCreation5mTokens, info.usage.claudeCacheCreation1hTokens⟩
  let split := normalizeCacheCreationSplit creation shares.ephemeral5mInputTokens shares.ephemeral1hInputTokens
  { usage with
    inputTokens := orKept usage.inputTokens info.usage.promptTokens
    cacheReadInputTokens := orKept usage.cacheReadInputTokens info.usage.promptTokensDetails.cachedTokens
    cacheCreationInputTokens := creation
    cacheCreation := if usage.cacheCreation ≠ none ∨ 0 < split.1 ∨ 0 < split.2 then some ⟨split.1, split.2⟩ else none }

/-- `counted` are the tokens of the text that was streamed, and `estimated` those of the prompt. -/
def handleStreamFinalResponse (counted : String → Nat) (estimated : Int)
    (info : ClaudeResponseInfo) : ClaudeResponseInfo :=
  let fallback : Int := counted info.responseText
  let incomplete := info.usage.completionTokens = 0 ∨ info.done = false
  let completion :=
    if info.usage.completionTokens = 0 ∨ (info.done = false ∧ info.usage.completionTokens < fallback) then fallback
    else info.usage.completionTokens
  let prompt := if incomplete ∧ info.usage.promptTokens = 0 then estimated else info.usage.promptTokens
  let usage : Usage := {
    info.usage with
    promptTokens := prompt
    completionTokens := completion
    totalTokens := if incomplete then prompt + completion else info.usage.totalTokens
    usageSemantic := "anthropic" }
  let billing := match usage.billingUsage with
    | some billing => some billing
    | none => newClaudeMessagesBillingUsage (buildMessageDeltaPatchUsage none { info with usage := usage })
  { info with usage := { usage with billingUsage := billing } }

def claudeStreamUsage (counted : String → Nat) (estimated : Int) (events : List ClaudeResponse) : Usage :=
  (handleStreamFinalResponse counted estimated (collectStream events)).usage

def claudeResponseUsage (reported : Option ClaudeUsage) : Usage :=
  match reported with
  | none => {}
  | some reported =>
    { promptTokens := reported.inputTokens
      completionTokens := reported.outputTokens
      totalTokens := reported.inputTokens + reported.outputTokens
      usageSemantic := "anthropic"
      billingUsage := newClaudeMessagesBillingUsage reported
      promptTokensDetails :=
        { cachedTokens := reported.cacheReadInputTokens, cachedCreationTokens := reported.cacheCreationInputTokens }
      claudeCacheCreation5mTokens := reported.getCacheCreation5mTokens
      claudeCacheCreation1hTokens := reported.getCacheCreation1hTokens }

end NewApi.Relay
