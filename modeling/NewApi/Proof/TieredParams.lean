import NewApi.Proof.ClaudeStream
import NewApi.Relay.TextQuota

/-! # Parameters of billing expressions -/

namespace NewApi.Proof
open Relay
variable {info : RelayInfo} {reported : ClaudeUsage} {usedVars : ExprVar → Bool}

def settledParams (info : RelayInfo) (usage : Usage) (usedVars : ExprVar → Bool) : TokenParams :=
  let billing := effectiveBillingUsage usage
  buildTieredTokenParams billing (usageSemanticFromUsage info (some billing) = "anthropic") usedVars

def claudeParams (input output read five hour : Int) : TokenParams :=
  { p := if (input : Rat) < 0 then 0 else input
    c := if (output : Rat) < 0 then 0 else output
    len := input + read + five + hour
    cr := read
    cc := five
    cc1h := hour }

theorem claudeParams_counts {input output} (inputs : 0 ≤ input) (outputs : 0 ≤ output) (read five hour : Int) :
    claudeParams input output read five hour =
      { p := input, c := output, len := input + read + five + hour, cr := read, cc := five, cc1h := hour } := by
  have prompt : ¬(input : Rat) < 0 := not_lt.mpr (Int.cast_nonneg inputs)
  have completion : ¬(output : Rat) < 0 := not_lt.mpr (Int.cast_nonneg outputs)
  rw [claudeParams, if_neg prompt, if_neg completion]

section Claude
variable {usage : Usage}

theorem params_claude (billing : usage.billingUsage = newClaudeMessagesBillingUsage reported)
    (some : hasClaudeUsageTokens reported)
    (five : reported.claudeCacheCreation5mTokens = 0) (hour : reported.claudeCacheCreation1hTokens = 0) :
    settledParams info usage usedVars = claudeParams reported.inputTokens reported.outputTokens
      reported.cacheReadInputTokens
      reported.getCacheCreation5mTokens reported.getCacheCreation1hTokens := by
  obtain ⟨_, effective⟩ := effective_claude billing some
  have keep (value : Int) : (if value = 0 then 0 else value) = value := by split_ifs with zero <;> simp [zero]
  simp [settledParams, effective, usageFromClaudeBillingUsage, usageSemanticFromUsage,
    buildTieredTokenParams, claudeParams,
    BillingUsage.semanticAnthropic, five, hour, keep]

theorem params_empty (billing : usage.billingUsage = newClaudeMessagesBillingUsage reported)
    (none : ¬hasClaudeUsageTokens reported)
    (semantic : usage.usageSemantic = "anthropic") (image : usage.promptTokensDetails.imageTokens = 0)
    (audio : usage.promptTokensDetails.audioTokens = 0) (output : usage.completionTokenDetails = {}) :
    settledParams info usage usedVars = claudeParams usage.promptTokens usage.completionTokens
      usage.promptTokensDetails.cachedTokens
      usage.claudeCacheCreation5mTokens usage.claudeCacheCreation1hTokens := by
  have same := effective_empty billing none
  simp [settledParams, same, usageSemanticFromUsage, buildTieredTokenParams, claudeParams, semantic,
    image, audio, output]

theorem params_response (five : reported.claudeCacheCreation5mTokens = 0)
    (hour : reported.claudeCacheCreation1hTokens = 0) :
    settledParams info (claudeResponseUsage (some reported)) usedVars =
      claudeParams reported.inputTokens reported.outputTokens reported.cacheReadInputTokens
        reported.getCacheCreation5mTokens
        reported.getCacheCreation1hTokens := by
  by_cases tokens : hasClaudeUsageTokens reported
  · exact params_claude rfl tokens five hour
  · have billing : (claudeResponseUsage (some reported)).billingUsage = newClaudeMessagesBillingUsage reported := rfl
    exact params_empty billing tokens rfl rfl rfl rfl

end Claude

def openAIReport (plain read write output : Int) : Usage :=
  { promptTokens := plain + read + write
    completionTokens := output
    totalTokens := plain + read + write + output
    promptTokensDetails := { cachedTokens := read, cacheWriteTokens := write } }

def claudeReport (plain read write output : Int) : ClaudeUsage :=
  { inputTokens := plain, cacheReadInputTokens := read, cacheCreationInputTokens := write, outputTokens := output }

structure SameParams (usedVars : ExprVar → Bool) (one two : TokenParams) : Prop where
  p : one.p = two.p
  c : one.c = two.c
  len : one.len = two.len
  used : ∀ var, usedVars var → one.get var = two.get var

theorem params_openAI {info} (format : info.getFinalRequestRelayFormat ≠ .claude) {plain read write output}
    (plainly : 0 ≤ plain) (reads : 0 ≤ read) (writes : 0 ≤ write) (outputs : 0 ≤ output) (usedVars : ExprVar → Bool) :
    settledParams info (openAIReport plain read write output) usedVars =
      { p := plain + (if usedVars .cr then 0 else read) + (if usedVars .cc then 0 else write)
        c := output
        len := plain + read + write
        cr := read
        cc := write } := by
  have total : InputTokenDetails.cacheCreationTokensTotal
    { cachedTokens := read, cacheWriteTokens := write } = write := by
    simp only [InputTokenDetails.cacheCreationTokensTotal]
    split_ifs <;> omega
  have prompt : (0 : Rat) ≤ plain := by exact_mod_cast plainly
  have cached : (0 : Rat) ≤ read := by exact_mod_cast reads
  have written : (0 : Rat) ≤ write := by exact_mod_cast writes
  simp only [settledParams, openAIReport, effectiveBillingUsage, Option.bind_none, Option.getD_none,
    usageSemanticFromUsage, format,
    buildTieredTokenParams, total]
  cases usedVars .cr <;> cases usedVars .cc <;> simp
  all_goals refine ⟨?_, fun negative => absurd negative (not_lt.mpr outputs)⟩
  · intro _
    linarith
  · intro _
    linarith
  · rw [if_neg (by linarith)]
    ring
  · rw [if_neg (by linarith)]
    ring

theorem tiered_upstream_agnostic (info other : RelayInfo) (format : info.getFinalRequestRelayFormat ≠ .claude)
    (plain read write output : Int) (plainly : 0 ≤ plain) (reads : 0 ≤ read) (writes : 0 ≤ write) (outputs : 0 ≤ output)
    (usedVars : ExprVar → Bool) :
    SameParams usedVars (settledParams info (openAIReport plain read write output) usedVars)
      (settledParams other (claudeResponseUsage (some (claudeReport plain read write output))) usedVars) ↔
    write = 0 ∧ (read = 0 ∨ usedVars .cr = true) := by
  rw [params_openAI format plainly reads writes outputs, params_response rfl rfl]
  change SameParams usedVars _ (claudeParams plain output read 0 0) ↔ _
  rw [claudeParams_counts plainly outputs]
  constructor
  · intro same
    have unwritten : write = 0 := by simpa using same.len
    refine ⟨unwritten, ?_⟩
    by_cases used : usedVars .cr = true
    · exact .inr used
    · have unread := same.p
      simp [used, unwritten] at unread
      exact .inl unread
  · rintro ⟨rfl, unread⟩
    refine ⟨?_, rfl, by simp, fun var used => ?_⟩
    · rcases unread with rfl | used <;> simp [*]
    · cases var with
      | p => rcases unread with rfl | used <;> simp [*, TokenParams.get]
      | _ => simp [TokenParams.get]

def textInfo : RelayInfo :=
  { relayFormat := .openai, requestConversionChain := [.openai], originModelName :=
    "model", userGroup := "default", usingGroup := "default" }

theorem tiered_upstream_agnostic_read : textInfo.getFinalRequestRelayFormat ≠ .claude ∧
    SameParams (fun var => var = .cr) (settledParams textInfo (openAIReport 800 200 0 500) fun var => var = .cr)
      (settledParams textInfo (claudeResponseUsage (some (claudeReport 800 200 0 500))) fun var => var = .cr) :=
  ⟨by decide, (tiered_upstream_agnostic textInfo textInfo (by decide) 800 200 0 500 (by decide)
    (by decide) (by decide) (by decide) _).mpr
    ⟨rfl, .inr rfl⟩⟩

theorem tiered_reports_differ : ((settledParams textInfo (openAIReport 800 200 100 500) fun _ => true).len = 1100 ∧
      (settledParams textInfo (openAIReport 800 200 100 500) fun _ => true).cc = 100) ∧
    (settledParams textInfo (claudeResponseUsage (some (claudeReport 800 200 100 500))) fun _ => true).len = 1000 ∧
    (settledParams textInfo (claudeResponseUsage (some (claudeReport 800 200 100 500))) fun _ => true).cc = 0 := by
  decide +kernel

structure Reports (events : List ClaudeResponse) (reported : ClaudeUsage) : Prop where
  semantic : (collectStream events).usage.usageSemantic = "anthropic"
  input : (collectStream events).usage.promptTokens = reported.inputTokens
  output : (collectStream events).usage.completionTokens = reported.outputTokens
  read : (collectStream events).usage.promptTokensDetails.cachedTokens = reported.cacheReadInputTokens
  write : (collectStream events).usage.promptTokensDetails.cachedCreationTokens = reported.cacheCreationInputTokens
  five : (collectStream events).usage.claudeCacheCreation5mTokens = reported.getCacheCreation5mTokens
  hour : (collectStream events).usage.claudeCacheCreation1hTokens = reported.getCacheCreation1hTokens

/-- A count of `message_delta` takes the place of that of `message_start`, or is left out. -/
def Tells (start delta value : Int) : Prop := 0 < delta ∧ delta = value ∨ delta = 0 ∧ start = value

structure ReportedBy (start delta reported : ClaudeUsage) : Prop where
  input : Tells start.inputTokens delta.inputTokens reported.inputTokens
  output : Tells start.outputTokens delta.outputTokens reported.outputTokens
  read : Tells start.cacheReadInputTokens delta.cacheReadInputTokens reported.cacheReadInputTokens
  write : Tells start.cacheCreationInputTokens delta.cacheCreationInputTokens reported.cacheCreationInputTokens
  five : Tells start.getCacheCreation5mTokens delta.getCacheCreation5mTokens reported.getCacheCreation5mTokens
  hour : Tells start.getCacheCreation1hTokens delta.getCacheCreation1hTokens reported.getCacheCreation1hTokens

def deliveringStream (model : String) (start : ClaudeUsage) (between : List ClaudeResponse) (delta : ClaudeUsage) :
    List ClaudeResponse :=
  { type := "message_start", message := some ⟨model, some start⟩ } :: between ++
    [{ type := "message_delta", usage := some delta }]

def CarriesNoUsage (event : ClaudeResponse) : Prop := event.type ≠ "message_start" ∧ event.type ≠ "message_delta"

structure Split (reported : ClaudeUsage) : Prop where
  input : 0 ≤ reported.inputTokens
  output : 0 ≤ reported.outputTokens
  five : 0 ≤ reported.getCacheCreation5mTokens
  hour : 0 ≤ reported.getCacheCreation1hTokens
  within : reported.getCacheCreation5mTokens + reported.getCacheCreation1hTokens ≤ reported.cacheCreationInputTokens
  legacy5m : reported.claudeCacheCreation5mTokens = 0
  legacy1h : reported.claudeCacheCreation1hTokens = 0

structure KeepsWrites (reported : ClaudeUsage) (params : TokenParams) : Prop where
  writes : params.cc + params.cc1h = reported.cacheCreationInputTokens
  len : params.len = reported.inputTokens + reported.cacheReadInputTokens + reported.cacheCreationInputTokens

section Writes
variable {events between : List ClaudeResponse}

theorem collect_between (quiet : ∀ event ∈ between, CarriesNoUsage event) (info : ClaudeResponseInfo) :
    (between.foldl (fun info response => (formatClaudeResponseInfo response info).2) info).usage = info.usage := by
  induction between generalizing info with
  | nil => rfl
  | cons event _ ih =>
    rw [List.foldl_cons, ih fun other mem => quiet other (by simp [mem])]
    obtain ⟨notStart, notDelta⟩ := quiet event (by simp)
    rw [formatClaudeResponseInfo, if_neg notStart, if_neg notDelta]
    split_ifs
    · cases event.delta <;> rfl
    · rfl
    · rfl

theorem positiveOr_tells {start delta value} (tells : Tells start delta value) : positiveOr delta start = value := by
  rcases tells with ⟨pos, rfl⟩ | ⟨rfl, rfl⟩
  · exact if_pos pos
  · exact if_neg (lt_irrefl 0)

theorem reportedBy_reports {model start delta} (quiet : ∀ event ∈ between, CarriesNoUsage event)
    (told : ReportedBy start delta reported) : Reports (deliveringStream model start between delta) reported := by
  have collected : (collectStream (deliveringStream model start between delta)).usage =
      deltaUsage (startUsage {} start) delta := by
    rw [collectStream, deliveringStream, List.cons_append, List.foldl_cons, List.foldl_append,
      List.foldl_cons, List.foldl_nil]
    exact congrArg (deltaUsage · delta) (collect_between quiet _)
  constructor <;> rw [collected]
  · rfl
  · exact positiveOr_tells told.input
  · exact positiveOr_tells told.output
  · exact positiveOr_tells told.read
  · exact positiveOr_tells told.write
  · exact positiveOr_tells told.five
  · exact positiveOr_tells told.hour

theorem collect_details (events : List ClaudeResponse) :
    (collectStream events).usage.promptTokensDetails.imageTokens = 0 ∧
      (collectStream events).usage.promptTokensDetails.audioTokens = 0 ∧
      (collectStream events).usage.completionTokenDetails = {} :=
  collect_usage (fun usage => usage.promptTokensDetails.imageTokens = 0 ∧ usage.promptTokensDetails.audioTokens = 0 ∧
    usage.completionTokenDetails = {}) ⟨rfl, rfl, rfl⟩ (fun _ _ kept => kept) (fun _ _ kept => kept) events

theorem report_shares {usage split} (five : 0 ≤ split.1) (hour : 0 ≤ split.2)
    (same : normalizeCacheCreationSplit usage.promptTokensDetails.cachedCreationTokens usage.claudeCacheCreation5mTokens
      usage.claudeCacheCreation1hTokens = split) :
    (streamReport usage).getCacheCreation5mTokens = split.1 ∧
      (streamReport usage).getCacheCreation1hTokens = split.2 := by
  simp only [streamReport, same, ClaudeUsage.getCacheCreation5mTokens, ClaudeUsage.getCacheCreation1hTokens]
  by_cases pos : 0 < split.1 ∨ 0 < split.2
  · simp only [if_pos pos, Option.map_some, Option.getD_some, and_self]
  · simp only [if_neg pos, Option.map_none, Option.getD_none]
    omega

theorem params_stream (split : Split reported) (reports : Reports events reported) :
    settledParams info (collectStream events).usage usedVars =
      claudeParams reported.inputTokens reported.outputTokens reported.cacheReadInputTokens
        (reported.cacheCreationInputTokens - reported.getCacheCreation1hTokens) reported.getCacheCreation1hTokens := by
  have within := split.within
  have fiveNonneg := split.five
  have hourNonneg := split.hour
  by_cases tokens : hasClaudeUsageTokens (streamReport (collectStream events).usage)
  · rw [params_claude (renewed_collect events) tokens rfl rfl]
    have whole : normalizeCacheCreationSplit (collectStream events).usage.promptTokensDetails.cachedCreationTokens
        (collectStream events).usage.claudeCacheCreation5mTokens
          (collectStream events).usage.claudeCacheCreation1hTokens =
        (reported.cacheCreationInputTokens - reported.getCacheCreation1hTokens, reported.getCacheCreation1hTokens) := by
      rw [reports.write, reports.five, reports.hour]
      simp only [normalizeCacheCreationSplit, Prod.mk.injEq, and_true]
      split_ifs <;> omega
    have shares := report_shares (by simp only; omega) hourNonneg whole
    rw [shares.1, shares.2]
    simp only [streamReport, reports.input, reports.output, reports.read]
  · obtain ⟨image, audio, details⟩ := collect_details events
    obtain ⟨-, -, -, unwritten, -⟩ := unreported_counts tokens
    rw [params_empty (renewed_collect events) tokens reports.semantic image audio details,
      reports.input, reports.output, reports.read,
      reports.five, reports.hour]
    rw [reports.write] at unwritten
    congr 1
    omega

theorem stream_keeps_writes (split : Split reported) (reports : Reports events reported) :
    KeepsWrites reported (settledParams info (collectStream events).usage usedVars) := by
  rw [params_stream split reports]
  refine ⟨?_, ?_⟩
  · simp [claudeParams]
  · simp [claudeParams]
    ring

end Writes

theorem cache_writes_kept (info other : RelayInfo) (reported : ClaudeUsage) (split : Split reported) (model : String)
    (start delta : ClaudeUsage) (told : ReportedBy start delta reported) (between : List ClaudeResponse)
    (quiet : ∀ event ∈ between, CarriesNoUsage event) (usedVars : ExprVar → Bool) :
    (KeepsWrites reported (settledParams info (claudeResponseUsage (some reported)) usedVars) ∧
      settledParams other (collectStream (deliveringStream model start between delta)).usage usedVars =
        settledParams info (claudeResponseUsage (some reported)) usedVars) ↔
    reported.getCacheCreation5mTokens + reported.getCacheCreation1hTokens = reported.cacheCreationInputTokens := by
  have reports := @reportedBy_reports _ _ model _ _ quiet told
  generalize deliveringStream model start between delta = events at reports ⊢
  rw [params_response split.legacy5m split.legacy1h]
  constructor
  · rintro ⟨kept, -⟩
    have writes := kept.writes
    simp only [claudeParams] at writes
    exact_mod_cast writes
  · intro whole
    have same : settledParams other (collectStream events).usage usedVars = claudeParams reported.inputTokens
        reported.outputTokens reported.cacheReadInputTokens reported.getCacheCreation5mTokens
        reported.getCacheCreation1hTokens := by
      rw [params_stream split reports, ← whole]
      congr 1
      omega
    rw [← same]
    exact ⟨stream_keeps_writes split reports, rfl⟩

def writingUsage (split : Option ClaudeCacheCreationUsage) : ClaudeUsage :=
  { inputTokens := 10, cacheCreationInputTokens := 30, cacheReadInputTokens := 5, outputTokens :=
    7, cacheCreation := split }

def writingStream (split : Option ClaudeCacheCreationUsage) : List ClaudeResponse :=
  deliveringStream "claude" { writingUsage split with outputTokens := 1 } [{ type := "ping" }] { outputTokens := 7 }

theorem cache_writes_kept_whole :
    KeepsWrites (writingUsage (some ⟨20, 10⟩))
      (settledParams textInfo (claudeResponseUsage (some (writingUsage (some ⟨20, 10⟩)))) fun _ => true) ∧
    settledParams textInfo (collectStream (writingStream (some ⟨20, 10⟩))).usage (fun _ => true) =
      settledParams textInfo (claudeResponseUsage (some (writingUsage (some ⟨20, 10⟩)))) fun _ => true :=
  (cache_writes_kept textInfo textInfo (writingUsage (some ⟨20, 10⟩))
    ⟨by decide, by decide, by decide, by decide, by decide, rfl, rfl⟩ "claude"
    { writingUsage (some ⟨20, 10⟩) with outputTokens := 1 } { outputTokens := 7 }
    ⟨.inr ⟨rfl, rfl⟩, .inl ⟨by decide, rfl⟩, .inr ⟨rfl, rfl⟩, .inr ⟨rfl, rfl⟩, .inr ⟨rfl, rfl⟩, .inr ⟨rfl, rfl⟩⟩
    [{ type := "ping" }] (by simp [CarriesNoUsage]) fun _ => true).mpr rfl

theorem cache_writes_dropped :
    (settledParams textInfo (claudeResponseUsage (some (writingUsage none))) fun _ => true).cc = 0 ∧
    (settledParams textInfo (claudeResponseUsage (some (writingUsage none))) fun _ => true).cc1h = 0 ∧
    (settledParams textInfo (collectStream (writingStream none)).usage fun _ => true).cc = 30 := by
  decide +kernel

end NewApi.Proof
