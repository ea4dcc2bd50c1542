import NewApi.Common.Text
import Mathlib.Data.Rat.Defs

/-!
# Usage reports

OpenAI counts the cache in the prompt, Claude counts it beside the input, Gemini lists modalities. A
relayed usage may carry the report of the upstream in its billing usage, which then takes its place
at settlement.
-/

namespace NewApi.Relay
open Common

structure InputTokenDetails where
  (cachedTokens cachedCreationTokens cacheWriteTokens textTokens audioTokens imageTokens : Int := 0)
deriving DecidableEq

def InputTokenDetails.cacheCreationTokensTotal (details : InputTokenDetails) : Int :=
  let total := if details.cachedCreationTokens <
    details.cacheWriteTokens then details.cacheWriteTokens else details.cachedCreationTokens
  if total < 0 then 0 else total

structure OutputTokenDetails where
  (textTokens audioTokens imageTokens reasoningTokens : Int := 0)
deriving DecidableEq

structure ClaudeCacheCreationUsage where
  (ephemeral5mInputTokens ephemeral1hInputTokens : Int := 0)

structure ClaudeUsage where
  (inputTokens cacheCreationInputTokens cacheReadInputTokens outputTokens : Int := 0)
  cacheCreation : Option ClaudeCacheCreationUsage := none
  (claudeCacheCreation5mTokens claudeCacheCreation1hTokens : Int := 0)
  webSearchRequests : Option Int := none

namespace ClaudeUsage

def getCacheCreation5mTokens (usage : ClaudeUsage) : Int := (usage.cacheCreation.map (·.ephemeral5mInputTokens)).getD 0

def getCacheCreation1hTokens (usage : ClaudeUsage) : Int := (usage.cacheCreation.map (·.ephemeral1hInputTokens)).getD 0

end ClaudeUsage

structure GeminiPromptTokensDetails where
  modality : String
  tokenCount : Int

structure GeminiUsageMetadata where
  (promptTokenCount toolUsePromptTokenCount candidatesTokenCount totalTokenCount thoughtsTokenCount
    cachedContentTokenCount : Int := 0)
  (promptTokensDetails toolUsePromptTokensDetails candidatesTokensDetails : List GeminiPromptTokensDetails := [])

/-- `β` is the billing usage inside: the usage of a billing usage has none of its own that is ever read. -/
structure UsageOf (β : Type) where
  (promptTokens completionTokens totalTokens promptCacheHitTokens : Int := 0)
  (usageSemantic usageSource : String := "")
  billingUsage : Option β := none
  promptTokensDetails : InputTokenDetails := {}
  completionTokenDetails : OutputTokenDetails := {}
  (inputTokens outputTokens : Int := 0)
  inputTokensDetails : Option InputTokenDetails := none
  (claudeCacheCreation5mTokens claudeCacheCreation1hTokens : Int := 0)
  cost : Option Rat := none

structure BillingUsage where
  (source semantic : String)
  estimated : Bool := false
  openAIUsage : Option (UsageOf Empty) := none
  claudeUsage : Option ClaudeUsage := none
  geminiUsageMetadata : Option GeminiUsageMetadata := none

abbrev Usage := UsageOf BillingUsage

namespace BillingUsage

def sourceClaudeMessages : String := "claude_messages"
def sourceGeminiChat : String := "gemini_chat"
def sourceOAIChat : String := "oai_chat"
def sourceOAIResponses : String := "oai_responses"
def semanticAnthropic : String := "anthropic"
def semanticGemini : String := "gemini"
def semanticOpenAI : String := "openai"

end BillingUsage

def hasClaudeUsageTokens (usage : ClaudeUsage) : Prop :=
  usage.inputTokens ≠ 0 ∨ usage.outputTokens ≠ 0 ∨ usage.cacheCreationInputTokens ≠ 0 ∨ usage.cacheReadInputTokens ≠ 0 ∨
    usage.claudeCacheCreation5mTokens ≠ 0 ∨ usage.claudeCacheCreation1hTokens ≠ 0 ∨
    usage.getCacheCreation5mTokens ≠ 0 ∨ usage.getCacheCreation1hTokens ≠ 0

instance (usage : ClaudeUsage) : Decidable (hasClaudeUsageTokens usage) := inferInstanceAs (Decidable (_ ∨ _))

def newClaudeMessagesBillingUsage (usage : ClaudeUsage) : Option BillingUsage :=
  if hasClaudeUsageTokens usage then
    some { source := BillingUsage.sourceClaudeMessages, semantic :=
      BillingUsage.semanticAnthropic, claudeUsage := some usage }
  else none

variable (billing : BillingUsage)

def usageFromOpenAIBillingUsage (reported : UsageOf Empty) : Usage :=
  let prompt := if reported.promptTokens = 0 ∧
    0 < reported.inputTokens then reported.inputTokens else reported.promptTokens
  let completion := if reported.completionTokens = 0 ∧ 0 <
    reported.outputTokens then reported.outputTokens else reported.completionTokens
  { reported with
    promptTokens := prompt
    completionTokens := completion
    inputTokens := if reported.inputTokens = 0 ∧ 0 < prompt then prompt else reported.inputTokens
    outputTokens := if reported.outputTokens = 0 ∧ 0 < completion then completion else reported.outputTokens
    totalTokens := if reported.totalTokens = 0 then prompt + completion else reported.totalTokens
    usageSemantic := BillingUsage.semanticOpenAI
    usageSource := billing.source
    billingUsage := some billing }

def usageFromClaudeBillingUsage (reported : ClaudeUsage) : Usage :=
  let cacheCreation5m := if reported.getCacheCreation5mTokens =
    0 then reported.claudeCacheCreation5mTokens else reported.getCacheCreation5mTokens
  let cacheCreation1h := if reported.getCacheCreation1hTokens =
    0 then reported.claudeCacheCreation1hTokens else reported.getCacheCreation1hTokens
  { promptTokens := reported.inputTokens
    completionTokens := reported.outputTokens
    totalTokens := reported.inputTokens + reported.outputTokens
    inputTokens := reported.inputTokens + reported.cacheReadInputTokens + reported.cacheCreationInputTokens
    outputTokens := reported.outputTokens
    usageSemantic := BillingUsage.semanticAnthropic
    usageSource := BillingUsage.sourceClaudeMessages
    billingUsage := some billing
    claudeCacheCreation5mTokens := cacheCreation5m
    claudeCacheCreation1hTokens := cacheCreation1h
    promptTokensDetails :=
      { cachedTokens := reported.cacheReadInputTokens, cachedCreationTokens := reported.cacheCreationInputTokens } }

def addGeminiInputTokenDetail (details : InputTokenDetails) (detail : GeminiPromptTokensDetails) : InputTokenDetails :=
  if detail.modality = "AUDIO" then { details with audioTokens := details.audioTokens + detail.tokenCount }
  else if detail.modality = "IMAGE" then { details with imageTokens := details.imageTokens + detail.tokenCount }
  else if detail.modality = "TEXT" then { details with textTokens := details.textTokens + detail.tokenCount }
  else details

def addGeminiOutputTokenDetail (details : OutputTokenDetails) (detail : GeminiPromptTokensDetails) :
    OutputTokenDetails :=
  if detail.modality = "IMAGE" then { details with imageTokens := details.imageTokens + detail.tokenCount }
  else if detail.modality = "AUDIO" then { details with audioTokens := details.audioTokens + detail.tokenCount }
  else if detail.modality = "TEXT" then { details with textTokens := details.textTokens + detail.tokenCount }
  else details

def usageFromGeminiBillingUsage (metadata : GeminiUsageMetadata) : Usage :=
  let prompt := metadata.promptTokenCount + metadata.toolUsePromptTokenCount
  let completion := metadata.candidatesTokenCount + metadata.thoughtsTokenCount
  let details := (metadata.promptTokensDetails ++ metadata.toolUsePromptTokensDetails).foldl addGeminiInputTokenDetail
    { cachedTokens := metadata.cachedContentTokenCount }
  { promptTokens := prompt
    completionTokens := if metadata.totalTokenCount ≠ 0 ∧
      completion ≤ 0 then metadata.totalTokenCount - prompt else completion
    totalTokens := if metadata.totalTokenCount = 0 then prompt + completion else metadata.totalTokenCount
    usageSemantic := BillingUsage.semanticGemini
    usageSource := BillingUsage.sourceGeminiChat
    billingUsage := some billing
    promptTokensDetails :=
      if 0 < prompt ∧ details.textTokens = 0 ∧ details.audioTokens =
        0 then { details with textTokens := prompt } else details
    completionTokenDetails := metadata.candidatesTokensDetails.foldl addGeminiOutputTokenDetail
      { reasoningTokens := metadata.thoughtsTokenCount } }

def BillingUsage.isOpenAI : Bool :=
  equalFold (trimSpace billing.source) sourceOAIChat || equalFold (trimSpace billing.source) sourceOAIResponses ||
    equalFold (trimSpace billing.semantic) semanticOpenAI

def BillingUsage.isClaude : Bool :=
  equalFold (trimSpace billing.source) sourceClaudeMessages || equalFold (trimSpace billing.semantic) semanticAnthropic

def BillingUsage.isGemini : Bool :=
  equalFold (trimSpace billing.source) sourceGeminiChat || equalFold (trimSpace billing.semantic) semanticGemini

def usageFromBillingUsage : Option Usage :=
  match billing.openAIUsage, billing.isOpenAI with
  | some reported, true => some (usageFromOpenAIBillingUsage billing reported)
  | _, _ =>
    match billing.claudeUsage, billing.isClaude with
    | some reported, true => some (usageFromClaudeBillingUsage billing reported)
    | _, _ =>
      match billing.geminiUsageMetadata, billing.isGemini with
      | some metadata, true => some (usageFromGeminiBillingUsage billing metadata)
      | _, _ => none

def effectiveBillingUsage (usage : Usage) : Usage := (usage.billingUsage.bind usageFromBillingUsage).getD usage

end NewApi.Relay
