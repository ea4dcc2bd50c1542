import NewApi.Relay.ClaudeMessages

/-! # Truncated Claude streams -/

namespace NewApi.Proof
open Common Relay BillingUsage

section Effective
variable {usage : Usage} {reported : ClaudeUsage}

theorem isClaude_messages (billing : BillingUsage) (source : billing.source = sourceClaudeMessages) :
    billing.isClaude = true := by
  have fold : equalFold (trimSpace sourceClaudeMessages) sourceClaudeMessages = true := by decide
  simp [isClaude, source, fold]

theorem effective_claude (billing : usage.billingUsage = newClaudeMessagesBillingUsage reported)
    (some : hasClaudeUsageTokens reported) :
    ∃ billed, effectiveBillingUsage usage = usageFromClaudeBillingUsage billed reported := by
  rw [newClaudeMessagesBillingUsage, if_pos some] at billing
  refine ⟨⟨sourceClaudeMessages, semanticAnthropic, false, none, Option.some reported, none⟩, ?_⟩
  simp only [effectiveBillingUsage, billing, usageFromBillingUsage, isClaude_messages,
    Option.bind_some, Option.getD_some]

theorem effective_empty (billing : usage.billingUsage = newClaudeMessagesBillingUsage reported)
    (none : ¬hasClaudeUsageTokens reported) :
    effectiveBillingUsage usage = usage := by
  rw [newClaudeMessagesBillingUsage, if_neg none] at billing
  simp [effectiveBillingUsage, billing]

end Effective

def streamReport (usage : Usage) : ClaudeUsage :=
  let split := normalizeCacheCreationSplit usage.promptTokensDetails.cachedCreationTokens
    usage.claudeCacheCreation5mTokens
    usage.claudeCacheCreation1hTokens
  { inputTokens := usage.promptTokens
    cacheCreationInputTokens := usage.promptTokensDetails.cachedCreationTokens
    cacheReadInputTokens := usage.promptTokensDetails.cachedTokens
    outputTokens := usage.completionTokens
    cacheCreation := if 0 < split.1 ∨ 0 < split.2 then some ⟨split.1, split.2⟩ else none }

def Renewed (usage : Usage) : Prop := usage.billingUsage = newClaudeMessagesBillingUsage (streamReport usage)

theorem format_cases (response info) : (formatClaudeResponseInfo response info).2.usage = info.usage ∨
    ∃ reported, (formatClaudeResponseInfo response info).2.usage = startUsage info.usage reported ∨
      (formatClaudeResponseInfo response info).2.usage = deltaUsage info.usage reported := by
  unfold formatClaudeResponseInfo
  split_ifs
  · cases response.message.bind (·.usage) with
    | none => exact .inl rfl
    | some reported => exact .inr ⟨reported, .inl rfl⟩
  · cases response.delta <;> exact .inl rfl
  · cases response.usage with
    | none => exact .inl rfl
    | some reported => exact .inr ⟨reported, .inr rfl⟩
  · exact .inl rfl
  · exact .inl rfl

theorem collect_usage (holds : Usage → Prop) (init : holds {})
    (starts : ∀ usage reported, holds usage → holds (startUsage usage reported))
    (deltas : ∀ usage reported, holds usage → holds (deltaUsage usage reported)) (events : List ClaudeResponse) :
    holds (collectStream events).usage := by
  suffices kept : ∀ info : ClaudeResponseInfo, holds info.usage →
      holds (events.foldl (fun info response => (formatClaudeResponseInfo response info).2) info).usage by
    exact kept {} init
  induction events with
  | nil => exact fun info held => held
  | cons response _ ih =>
    intro info held
    refine ih _ ?_
    rcases format_cases response info with same | ⟨reported, start | delta⟩
    · rwa [same]
    · rw [start]
      exact starts info.usage reported held
    · rw [delta]
      exact deltas info.usage reported held

theorem renewed_collect (events : List ClaudeResponse) : Renewed (collectStream events).usage :=
  collect_usage Renewed rfl (fun _ _ _ => rfl) (fun _ _ _ => rfl) events

structure BilledAsReturned (usage : Usage) : Prop where
  completion : (effectiveBillingUsage usage).completionTokens = usage.completionTokens
  prompt : (effectiveBillingUsage usage).promptTokens = usage.promptTokens

def NothingMadeUp (counted : String → Nat) (estimated : Int) (info : ClaudeResponseInfo) : Prop :=
  if hasClaudeUsageTokens (streamReport info.usage) then
    (info.usage.completionTokens = 0 → counted info.responseText = 0) ∧
    (info.done = false → (counted info.responseText : Int) ≤ info.usage.completionTokens) ∧
    (info.usage.completionTokens = 0 ∨ info.done = false → info.usage.promptTokens = 0 → estimated = 0)
  else counted info.responseText = 0 ∨ estimated ≤ 0

section Final
variable {counted : String → Nat} {estimated : Int} {info : ClaudeResponseInfo}

theorem unreported_counts {usage} (none : ¬hasClaudeUsageTokens (streamReport usage)) :
    usage.promptTokens = 0 ∧ usage.completionTokens = 0 ∧ usage.promptTokensDetails.cachedTokens = 0 ∧
    usage.promptTokensDetails.cachedCreationTokens = 0 ∧
    ¬(0 < (normalizeCacheCreationSplit 0 usage.claudeCacheCreation5mTokens usage.claudeCacheCreation1hTokens).1 ∨
      0 < (normalizeCacheCreationSplit 0 usage.claudeCacheCreation5mTokens usage.claudeCacheCreation1hTokens).2) := by
  simp only [hasClaudeUsageTokens, streamReport, not_or, not_not] at none
  obtain ⟨input, output, creation, read, -, -, five, hour⟩ := none
  refine ⟨input, output, read, creation, fun pos => ?_⟩
  rw [creation] at five hour
  simp only [if_pos pos, ClaudeUsage.getCacheCreation5mTokens, ClaudeUsage.getCacheCreation1hTokens, Option.map_some,
    Option.getD_some] at five hour
  omega

theorem final_unreported (renewed : Renewed info.usage) (none : ¬hasClaudeUsageTokens (streamReport info.usage)) :
    BilledAsReturned (handleStreamFinalResponse counted estimated info).usage ↔
      counted info.responseText = 0 ∨ estimated ≤ 0 := by
  obtain ⟨prompt, completion, cached, creation, split⟩ := unreported_counts none
  rw [Renewed, newClaudeMessagesBillingUsage, if_neg none] at renewed
  have ret : (handleStreamFinalResponse counted estimated info).usage.completionTokens = counted info.responseText ∧
      (handleStreamFinalResponse counted estimated info).usage.promptTokens = estimated := by
    simp [handleStreamFinalResponse, prompt, completion]
  have billing : (handleStreamFinalResponse counted estimated info).usage.billingUsage =
      newClaudeMessagesBillingUsage { inputTokens := if 0 < estimated then estimated else 0 } := by
    simp only [handleStreamFinalResponse, renewed, prompt, completion, buildMessageDeltaPatchUsage, cached, creation]
    simp [split]
  by_cases pos : 0 < estimated
  · obtain ⟨_, effective⟩ := effective_claude billing (.inl (by simp only [if_pos pos]; omega))
    constructor
    · intro honest
      have same := honest.completion
      rw [effective, ret.1] at same
      exact .inl (Int.natCast_eq_zero.mp same.symm)
    · rintro (silent | _)
      · refine ⟨?_, ?_⟩
        · rw [effective, ret.1, silent]
          rfl
        · rw [effective, ret.2]
          exact if_pos pos
      · omega
  · have empty : ¬hasClaudeUsageTokens { inputTokens := if 0 < estimated then estimated else 0 } := by
      simp [hasClaudeUsageTokens, if_neg pos, ClaudeUsage.getCacheCreation5mTokens,
        ClaudeUsage.getCacheCreation1hTokens]
    have same := effective_empty billing empty
    exact iff_of_true ⟨by rw [same], by rw [same]⟩ (.inr (by omega))

theorem final_reported (renewed : Renewed info.usage) (some : hasClaudeUsageTokens (streamReport info.usage)) :
    BilledAsReturned (handleStreamFinalResponse counted estimated info).usage ↔
      (handleStreamFinalResponse counted estimated info).usage.completionTokens = info.usage.completionTokens ∧
      (handleStreamFinalResponse counted estimated info).usage.promptTokens = info.usage.promptTokens := by
  have billing : (handleStreamFinalResponse counted estimated info).usage.billingUsage =
      newClaudeMessagesBillingUsage (streamReport info.usage) := by
    rw [Renewed, newClaudeMessagesBillingUsage, if_pos some] at renewed
    simp only [handleStreamFinalResponse, renewed, newClaudeMessagesBillingUsage, if_pos some]
  obtain ⟨_, effective⟩ := effective_claude billing some
  constructor
  · rintro ⟨completion, prompt⟩
    rw [effective] at completion prompt
    exact ⟨completion.symm, prompt.symm⟩
  · rintro ⟨completion, prompt⟩
    refine ⟨?_, ?_⟩
    · rw [effective, completion]
      rfl
    · rw [effective, prompt]
      rfl

theorem final_unchanged :
    ((handleStreamFinalResponse counted estimated info).usage.completionTokens =
    info.usage.completionTokens ∧
      (handleStreamFinalResponse counted estimated info).usage.promptTokens = info.usage.promptTokens) ↔
    (info.usage.completionTokens = 0 → counted info.responseText = 0) ∧
    (info.done = false → (counted info.responseText : Int) ≤ info.usage.completionTokens) ∧
    (info.usage.completionTokens = 0 ∨ info.done = false → info.usage.promptTokens = 0 → estimated = 0) := by
  simp only [handleStreamFinalResponse]
  cases info.done <;> simp <;> omega

end Final

/-- A stream that breaks off returns the larger of the reported and the counted output, and is billed as returned
exactly if nothing was made up. -/
theorem truncated_stream_billed (counted : String → Nat) (estimated : Int) (events : List ClaudeResponse) :
    ((collectStream events).done = false → (claudeStreamUsage counted estimated events).completionTokens =
      max (collectStream events).usage.completionTokens (counted (collectStream events).responseText)) ∧
    (BilledAsReturned (claudeStreamUsage counted estimated events) ↔
      NothingMadeUp counted estimated (collectStream events)) := by
  refine ⟨fun unfinished => ?_, ?_⟩
  · simp only [claudeStreamUsage, handleStreamFinalResponse, unfinished, true_and]
    split_ifs <;> omega
  unfold NothingMadeUp claudeStreamUsage
  split_ifs with some
  · rw [final_reported (renewed_collect events) some, final_unchanged]
  · exact final_unreported (renewed_collect events) some

def brokenStream : List ClaudeResponse :=
  [{ type := "message_start", message := some ⟨"claude", some { inputTokens := 10, outputTokens := 1 }⟩ },
   { type := "content_block_delta", delta := some { text := some "streamed" } }]

theorem truncated_stream_underbilled : (claudeStreamUsage String.length 10 brokenStream).completionTokens = 8 ∧
    (effectiveBillingUsage (claudeStreamUsage String.length 10 brokenStream)).completionTokens = 1 := by
  decide +kernel

end NewApi.Proof
