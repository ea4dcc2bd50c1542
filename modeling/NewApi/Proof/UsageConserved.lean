import NewApi.Relay.ChatToClaude

/-! # Tokens of a converted usage -/

namespace NewApi.Proof
open Relay

def Unembedded (usage : Usage) : Prop := ∀ billing ∈ usage.billingUsage, billing.claudeUsage = none

def claudeInput (usage : ClaudeUsage) : Int := usage.inputTokens + usage.cacheReadInputTokens +
    usage.cacheCreationInputTokens

def inputCounts (usage : ClaudeUsage) : Int × Int × Int :=
  (usage.inputTokens, usage.cacheReadInputTokens, usage.cacheCreationInputTokens)

def withoutBilling (usage : Usage) : Usage := { usage with billingUsage := none }

theorem inputCounts_claude {usage} (unembedded : Unembedded usage) :
    let details := usage.promptTokensDetails
    inputCounts (buildClaudeUsageFromOpenAIUsage usage) =
      (if 0 < details.cacheWriteTokens then max 0 (usage.promptTokens - details.cachedTokens -
        details.cacheCreationTokensTotal)
        else usage.promptTokens, details.cachedTokens, details.cacheCreationTokensTotal) := by
  have own : (usage.billingUsage.bind fun billing =>
      if billing.source = BillingUsage.sourceClaudeMessages ∨
        billing.semantic = BillingUsage.semanticAnthropic then billing.claudeUsage
      else none) = none := by
    rw [Option.bind_eq_none_iff]
    intro billing mem
    rw [unembedded billing mem, ite_self]
  simp only [inputCounts, buildClaudeUsageFromOpenAIUsage, own, Option.getD_none, Prod.mk.injEq, and_true]
  split_ifs <;> omega

/-- In Claude's form the counts add up to the prompt just if cache writes are reported and with the
reads within it, or not reported and nothing was cached. -/
theorem usage_conserved_iff (usage : Usage) : let details := usage.promptTokensDetails
    (Unembedded usage →
      (claudeInput (buildClaudeUsageFromOpenAIUsage usage) = usage.promptTokens ↔
        if 0 < details.cacheWriteTokens then details.cachedTokens +
          details.cacheCreationTokensTotal ≤ usage.promptTokens
        else details.cachedTokens + details.cacheCreationTokensTotal = 0)) ∧
    (usage.claudeCacheCreation5mTokens + usage.claudeCacheCreation1hTokens ≤ details.cachedCreationTokens →
      (inputCounts (buildClaudeUsageFromOpenAIUsage (withoutBilling (buildOpenAIStyleUsageFromClaudeUsage usage))) =
          (usage.promptTokens, details.cachedTokens, details.cachedCreationTokens) ↔
        (0 < details.cachedCreationTokens ∧ 0 ≤ usage.promptTokens) ∨
          (details.cachedCreationTokens = 0 ∧ details.cachedTokens = 0))) := by
  intro details
  constructor
  · intro unembedded
    have counts := inputCounts_claude unembedded
    simp only [inputCounts, Prod.mk.injEq] at counts
    obtain ⟨input, read, created⟩ := counts
    rw [claudeInput, input, read, created]
    split_ifs with written <;> simp only [details] <;> omega
  · intro (within : _ ≤ usage.promptTokensDetails.cachedCreationTokens)
    have unembedded : Unembedded (withoutBilling (buildOpenAIStyleUsageFromClaudeUsage usage)) :=
      fun _ mem => by cases mem
    have written : cacheCreationTokensForOpenAIUsage usage = usage.promptTokensDetails.cachedCreationTokens := by
      simp only [cacheCreationTokensForOpenAIUsage]
      split_ifs <;> omega
    rw [inputCounts_claude unembedded]
    simp only [withoutBilling, buildOpenAIStyleUsageFromClaudeUsage, written,
      InputTokenDetails.cacheCreationTokensTotal,
      Prod.mk.injEq, true_and, details]
    split_ifs <;> omega

theorem usage_not_conserved :
    Unembedded { promptTokens := 100, promptTokensDetails := { cachedTokens := 60 } } ∧
    claudeInput (buildClaudeUsageFromOpenAIUsage { promptTokens := 100, promptTokensDetails :=
      { cachedTokens := 60 } }) = 160 ∧
    inputCounts (buildClaudeUsageFromOpenAIUsage (withoutBilling (buildOpenAIStyleUsageFromClaudeUsage
      { promptTokens := 40, promptTokensDetails := { cachedTokens := 60 } }))) = (100, 60, 0) := by
  refine ⟨fun _ mem => ?_, by decide, by decide⟩
  cases mem

theorem usage_conserved_written : claudeInput (buildClaudeUsageFromOpenAIUsage
      { promptTokens := 100, promptTokensDetails := { cachedTokens := 60, cacheWriteTokens := 10 } }) = 100 := by
  refine ((usage_conserved_iff _).1 fun _ mem => ?_).2 (by decide)
  cases mem

end NewApi.Proof
