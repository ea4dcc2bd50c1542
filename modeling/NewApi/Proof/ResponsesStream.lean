import NewApi.Proof.TextQuota
import NewApi.Relay.Responses

/-! # Streamed Responses -/

namespace NewApi.Proof
open Relay List

def addCalls (tools : BuiltInTools) (calls : String → Nat) :
    BuiltInTools := tools.map fun entry => (entry.1, entry.2 + calls entry.1)

theorem countCall_addCalls (tools) (tool : String) : countCall tools tool =
    addCalls tools fun name => [tool].count name := by
  refine map_congr_left fun entry _ => ?_
  by_cases same : entry.1 = tool
  · simp [same]
  · simp [same, Ne.symm same]

theorem addCalls_add (tools) (one two : String → Nat) :
    addCalls (addCalls tools one) two = addCalls tools fun name => one name + two name := by
  simp [addCalls, add_assoc]

theorem addCalls_none (tools) : addCalls tools (fun _ => 0) = tools := by simp [addCalls]

theorem foldl_countCall (called : List String) (tools) :
    called.foldl countCall tools = addCalls tools fun name => called.count name := by
  induction called generalizing tools with
  | nil => exact (addCalls_none tools).symm
  | cons _ _ ih =>
    rw [foldl_cons, ih, countCall_addCalls, addCalls_add]
    congr 1
    funext name
    rw [← count_append]
    rfl

def streamedItems (events : List ResponsesStreamResponse) : List ResponsesOutput :=
  (events.filter (·.type = responsesOutputTypeItemDone)).filterMap (·.item)

def streamedText (events : List ResponsesStreamResponse) : String :=
  events.foldl (fun text event => if event.type = "response.output_text.delta" then text ++ event.delta else text) ""

def webSearchCalls (items : List ResponsesOutput) : Nat := items.countP (·.type = buildInCallWebSearchCall)

structure Delivers (events : List ResponsesStreamResponse) (final : OpenAIResponsesResponse) : Prop where
  items : streamedItems events = final.output
  unfinished : ∀ event ∈ events, event.type ≠ "response.completed"

inductive ResponsesStatus where
  | completed | incomplete

def terminalEvent (final : OpenAIResponsesResponse) : ResponsesStatus → ResponsesStreamResponse
  | .completed => { type := "response.completed", response := some final }
  | .incomplete => { type := "response.incomplete", response := some final }

section Events
variable {events : List ResponsesStreamResponse} {ctx : RelayContext} {info : RelayInfo}

def searchedTools (info : RelayInfo) (items : List ResponsesOutput) : Option BuiltInTools :=
  info.builtInTools.map fun tools => addCalls tools fun name =>
    if name = buildInToolWebSearchPreview then webSearchCalls items else 0

theorem searched_append (info) (items : List ResponsesOutput) (item : ResponsesOutput) :
    searchedTools info (items ++ [item]) =
      if item.type = buildInCallWebSearchCall then
        (searchedTools info items).map fun tools => countCall tools buildInToolWebSearchPreview
      else searchedTools info items := by
  by_cases search : item.type = buildInCallWebSearchCall
  · rw [if_pos search]
    simp only [searchedTools, Option.map_map, Function.comp_def, countCall_addCalls, addCalls_add]
    congr 1
    funext tools
    congr 1
    funext name
    by_cases web : name = buildInToolWebSearchPreview
    · simp [webSearchCalls, search, web]
    · simp [web, Ne.symm web]
  · rw [if_neg search]
    simp [searchedTools, webSearchCalls, search]

theorem streamed_append (events : List ResponsesStreamResponse) (event : ResponsesStreamResponse) :
    streamedItems (events ++ [event]) =
      streamedItems events ++ if event.type = responsesOutputTypeItemDone then event.item.toList else [] := by
  by_cases done : event.type = responsesOutputTypeItemDone
  · cases known : event.item <;> simp [streamedItems, done, known]
  · simp [streamedItems, done]

theorem stream_unfinished (unfinished : ∀ event ∈ events, event.type ≠ "response.completed") :
    events.foldl handleResponsesEvent { usage := {}, ctx := ctx, info := info } =
      { usage := {}, ctx := ctx, info := { info with builtInTools := searchedTools info (streamedItems events) }, text := streamedText events } := by
  induction events using reverseRecOn with
  | nil =>
    have same : searchedTools info [] = info.builtInTools := by
      cases known : info.builtInTools <;> simp [searchedTools, webSearchCalls, addCalls, known]
    simp [streamedItems, streamedText, same]
  | append_singleton _ event ih =>
    rw [foldl_append, ih fun event known => unfinished event (by simp [known]), foldl_cons, foldl_nil]
    have going := unfinished event (by simp)
    simp only [handleResponsesEvent, if_neg going, streamed_append, streamedText, foldl_append, foldl_cons, foldl_nil]
    by_cases text : event.type = "response.output_text.delta"
    · simp [text, responsesOutputTypeItemDone]
    · by_cases done : event.type = responsesOutputTypeItemDone
      · cases known : event.item with
        | none => simp [done, responsesOutputTypeItemDone]
        | some =>
          simp only [if_neg text, if_pos done, Option.toList_some, searched_append]
          split_ifs <;> rfl
      · simp [text, done]

end Events

@[mk_iff]
structure SameCounts (one two : Usage) : Prop where
  prompt : one.promptTokens = two.promptTokens
  completion : one.completionTokens = two.completionTokens
  cached : one.promptTokensDetails.cachedTokens = two.promptTokensDetails.cachedTokens
  written : one.promptTokensDetails.cacheWriteTokens = two.promptTokensDetails.cacheWriteTokens

structure SameReport (one two : ResponsesOutcome) : Prop where
  counts : SameCounts one.usage two.usage
  calls : one.info.builtInTools = two.info.builtInTools
  image : one.ctx.imageGenerationCall = two.ctx.imageGenerationCall

def CountsReported (text : Int) (estimated : Int) (reported : Usage) : ResponsesStatus → Prop
  | .completed =>
    (reported.completionTokens ≠ 0 ∨ text = 0) ∧ (reported.promptTokens ≠ 0 ∨
      reported.completionTokens = 0 ∨ estimated = 0)
  | .incomplete =>
    reported.completionTokens = text ∧ reported.promptTokens = (if text = 0 then 0 else estimated) ∧
    reported.promptTokensDetails.cachedTokens = 0 ∧ reported.promptTokensDetails.cacheWriteTokens = 0

def countedText (counted : String → Nat) (events : List ResponsesStreamResponse) : Int :=
  if streamedText events = "" then 0 else counted (streamedText events)

def CallsDeclared (info : RelayInfo) (final : OpenAIResponsesResponse) : Prop :=
  ∀ tools ∈ info.builtInTools, ∀ entry ∈ tools,
    final.tools.count entry.1 = if entry.1 = buildInToolWebSearchPreview then webSearchCalls final.output else 0

structure StreamAgrees (counted : String → Nat) (ctx : RelayContext) (info : RelayInfo)
    (events : List ResponsesStreamResponse)
    (final : OpenAIResponsesResponse) (status : ResponsesStatus) : Prop where
  counts : CountsReported (countedText counted events) info.estimatePromptTokens (responsesUsage final.usage) status
  calls : CallsDeclared info final
  image : status = .incomplete → ∀ call ∈ final.imageGenerationCall, ctx.imageGenerationCall = some call

section Outcome
variable {counted : String → Nat} {ctx : RelayContext} {info : RelayInfo} {events : List ResponsesStreamResponse}
  {final : OpenAIResponsesResponse}

theorem completed_fresh (reported : Usage) : completedUsage {} reported = responsesUsage (some reported) := by
  have keep (value : Int) : (if value ≠ 0 then value else 0) = value := by split_ifs with zero <;> simp_all
  cases known : reported.inputTokensDetails <;> simp only [completedUsage, responsesUsage, known, keep] <;> rfl

def terminalUsage (final : OpenAIResponsesResponse) : ResponsesStatus → Usage
  | .completed => responsesUsage final.usage
  | .incomplete => {}

def terminalContext (ctx : RelayContext) (final : OpenAIResponsesResponse) : ResponsesStatus → RelayContext
  | .completed => ctx.noteImageGenerationCall final
  | .incomplete => ctx

theorem stream_outcome (delivers : Delivers events final) (status) :
    oaiResponsesStreamHandler counted ctx info (events ++ [terminalEvent final status]) =
      { usage := repairResponsesUsage counted info.estimatePromptTokens (streamedText events) (terminalUsage final status)
        ctx := terminalContext ctx final status
        info := { info with builtInTools := searchedTools info final.output } } := by
  rw [oaiResponsesStreamHandler, foldl_append, stream_unfinished delivers.unfinished, delivers.items]
  cases status with
  | completed =>
    have usage : (final.usage.map (completedUsage {})).getD {} = responsesUsage final.usage := by
      cases known : final.usage with
      | none => rfl
      | some reported => exact completed_fresh reported
    simp [terminalEvent, handleResponsesEvent, terminalUsage, terminalContext, usage]
  | incomplete => simp [terminalEvent, handleResponsesEvent, responsesOutputTypeItemDone,
      terminalUsage, terminalContext]

theorem repair_completion (estimated : Int) (usage) :
    (repairResponsesUsage counted estimated (streamedText events) usage).completionTokens =
      if usage.completionTokens = 0 then countedText counted events else usage.completionTokens := by
  simp only [repairResponsesUsage, countedText]
  split_ifs <;> simp_all

theorem repair_prompt (estimated : Int) (usage) :
    (repairResponsesUsage counted estimated (streamedText events) usage).promptTokens =
      if usage.promptTokens = 0 ∧ (repairResponsesUsage counted estimated
        (streamedText events) usage).completionTokens ≠ 0 then estimated
      else usage.promptTokens := rfl

theorem counts_iff (status) :
    SameCounts (repairResponsesUsage counted info.estimatePromptTokens (streamedText events)
      (terminalUsage final status))
      (responsesUsage final.usage) ↔
    CountsReported (countedText counted events) info.estimatePromptTokens (responsesUsage final.usage) status := by
  rw [sameCounts_iff, repair_prompt, repair_completion]
  cases status with
  | completed =>
    simp only [repairResponsesUsage, terminalUsage, CountsReported, and_true]
    split_ifs <;> omega
  | incomplete =>
    by_cases silent : countedText counted events = 0
    · simp [repairResponsesUsage, terminalUsage, CountsReported, silent]
      omega
    · simp [repairResponsesUsage, terminalUsage, CountsReported, silent]
      omega

theorem calls_iff : searchedTools info final.output = (info.builtInTools.map fun tools =>
    final.tools.foldl countCall tools) ↔
    CallsDeclared info final := by
  cases known : info.builtInTools with
  | none => simp [searchedTools, CallsDeclared, known]
  | some =>
    simp only [searchedTools, CallsDeclared, known, Option.map_some, Option.some.injEq,
      foldl_countCall, addCalls, map_inj_left,
      Option.mem_def, Prod.mk.injEq, true_and, forall_eq']
    refine forall₂_congr fun _ _ => ?_
    omega

theorem image_iff (status) :
    (terminalContext ctx final status).imageGenerationCall = (ctx.noteImageGenerationCall final).imageGenerationCall ↔
    (status = .incomplete → ∀ call ∈ final.imageGenerationCall, ctx.imageGenerationCall = some call) := by
  cases status with
  | completed => simp [terminalContext]
  | incomplete => cases known : final.imageGenerationCall <;> simp [terminalContext, RelayContext.noteImageGenerationCall, known]

theorem same_report_iff (status) : SameReport
      { usage := repairResponsesUsage counted info.estimatePromptTokens (streamedText events) (terminalUsage final status)
        ctx := terminalContext ctx final status
        info := { info with builtInTools := searchedTools info final.output } }
      { usage := responsesUsage final.usage
        ctx := ctx.noteImageGenerationCall final
        info := { info with builtInTools := info.builtInTools.map fun tools => final.tools.foldl countCall tools } } ↔
    StreamAgrees counted ctx info events final status := by
  constructor
  · rintro ⟨counts, calls, image⟩
    exact ⟨(counts_iff status).mp counts, calls_iff.mp calls, (image_iff status).mp image⟩
  · rintro ⟨counts, calls, image⟩
    exact ⟨(counts_iff status).mpr counts, calls_iff.mpr calls, (image_iff status).mpr image⟩

end Outcome

def responsesReport (prompt completion total cached written : Int) : Usage :=
  { promptTokens := prompt, completionTokens := completion, totalTokens := total
    promptTokensDetails := { cachedTokens := cached, cacheWriteTokens := written } }

theorem responsesUsage_report (reported : Option Usage) : ∃ prompt completion total cached written,
    responsesUsage reported = responsesReport prompt completion total cached written := by
  cases reported with
  | none => exact ⟨0, 0, 0, 0, 0, rfl⟩
  | some => exact ⟨_, _, _, _, _, rfl⟩

theorem settled_same {env ctx info one two} (counts : SameCounts one two)
    (oneReport : ∃ prompt completion total cached written, one = responsesReport prompt completion total cached written)
    (twoReport : ∃ prompt completion total cached written, two =
    responsesReport prompt completion total cached written) :
    (postTextConsumeQuota env ctx info (some one)).quota = (postTextConsumeQuota env ctx info (some two)).quota := by
  obtain ⟨_, _, total, _, _, rfl⟩ := oneReport
  obtain ⟨_, _, other, _, _, rfl⟩ := twoReport
  obtain ⟨rfl, rfl, rfl, rfl⟩ := counts
  rfl

theorem terminal_report (counted : String → Nat) (estimated : Int) (text : String)
    (final : OpenAIResponsesResponse) (status) :
    ∃ prompt completion total cached written,
      repairResponsesUsage counted estimated text (terminalUsage final status) =
        responsesReport prompt completion total cached written := by
  cases status with
  | completed =>
    obtain ⟨_, _, _, _, _, report⟩ := responsesUsage_report final.usage
    rw [terminalUsage, report]
    exact ⟨_, _, _, _, _, rfl⟩
  | incomplete => exact ⟨_, _, _, _, _, rfl⟩

theorem terminal_context {ctx final status}
    (image : status = .incomplete → ∀ call ∈ final.imageGenerationCall, ctx.imageGenerationCall = some call) :
    terminalContext ctx final status = ctx.noteImageGenerationCall final := by
  cases status with
  | completed => rfl
  | incomplete =>
    cases known : final.imageGenerationCall with
    | none => simp [terminalContext, RelayContext.noteImageGenerationCall, known]
    | some call =>
      simp only [terminalContext, RelayContext.noteImageGenerationCall, known]
      rw [← image rfl call known]

/-- The streamed and the plain answer are reported alike, and cost the same, just if the counts are
reported, the calls are as declared and an incomplete response has no image. -/
theorem responses_stream_price (counted : String → Nat) (env : RelayEnv) (ctx : RelayContext) (info : RelayInfo)
    (events : List ResponsesStreamResponse) (final : OpenAIResponsesResponse) (delivers : Delivers events final)
    (accepted : final.error.getD "" = "") (status : ResponsesStatus) : ∃ plain, oaiResponsesHandler ctx info final = .ok plain ∧
      let streamed := oaiResponsesStreamHandler counted ctx info (events ++ [terminalEvent final status])
      (SameReport streamed plain ↔ StreamAgrees counted ctx info events final status) ∧
      (StreamAgrees counted ctx info events final status →
        (postTextConsumeQuota env streamed.ctx streamed.info (some streamed.usage)).quota =
          (postTextConsumeQuota env plain.ctx plain.info (some plain.usage)).quota) := by
  refine ⟨_, if_neg (not_not.mpr accepted), ?_⟩
  dsimp only
  rw [stream_outcome delivers]
  refine ⟨same_report_iff status, fun agrees => ?_⟩
  rw [terminal_context agrees.image, calls_iff.mpr agrees.calls]
  exact settled_same ((counts_iff status).mpr agrees.counts) (terminal_report _ _ _ _ _) (responsesUsage_report _)

def searchInfo (tools : List String) : RelayInfo where
  relayFormat := .openaiResponses
  requestConversionChain := [.openaiResponses]
  originModelName := "model"
  userGroup := "default"
  usingGroup := "default"
  estimatePromptTokens := 90
  builtInTools := some (newBuiltInTools tools)

def searchedResponse (tools : List String) : OpenAIResponsesResponse where
  output := [{ type := "web_search_call" }, { type := "message" }]
  tools := tools
  usage := some { inputTokens := 100, outputTokens := 20, totalTokens := 120 }

def searchedEvents : List ResponsesStreamResponse :=
  [{ type := "response.output_item.done", item := some { type := "web_search_call" } },
   { type := "response.output_text.delta", delta := "found" },
   { type := "response.output_item.done", item := some { type := "message" } }]

theorem responses_stream_price_searched :
    ∃ plain, oaiResponsesHandler {} (searchInfo ["web_search_preview"])
      (searchedResponse ["web_search_preview"]) = .ok plain ∧
      SameReport (oaiResponsesStreamHandler String.length {} (searchInfo ["web_search_preview"])
        (searchedEvents ++ [terminalEvent (searchedResponse ["web_search_preview"]) .completed])) plain := by
  have agrees : StreamAgrees String.length {} (searchInfo ["web_search_preview"]) searchedEvents
    (searchedResponse ["web_search_preview"])
      .completed := by
    refine ⟨⟨.inl (by decide), .inl (by decide)⟩, ?_, fun incomplete => by cases incomplete⟩
    intro _ known
    cases known
    decide
  obtain ⟨plain, answered, same, -⟩ := responses_stream_price String.length ratioEnv {}
    (searchInfo ["web_search_preview"]) searchedEvents
    (searchedResponse ["web_search_preview"]) ⟨by decide, by decide⟩ rfl .completed
  exact ⟨plain, answered, same.mpr agrees⟩

theorem declared_search_charged : (oaiResponsesHandler {} (searchInfo ["file_search", "web_search_preview"])
      (searchedResponse ["file_search", "web_search_preview"])).toOption.bind (·.info.builtInTools) =
      some [("file_search", 1), ("web_search_preview", 1)] ∧
    (oaiResponsesStreamHandler String.length {} (searchInfo ["file_search", "web_search_preview"])
      (searchedEvents ++ [terminalEvent (searchedResponse ["file_search", "web_search_preview"])
        .completed])).info.builtInTools =
      some [("file_search", 0), ("web_search_preview", 1)] ∧
        (oaiResponsesStreamHandler String.length {} (searchInfo ["web_search_preview"])
      (searchedEvents ++ [terminalEvent (searchedResponse ["web_search_preview"])
        .incomplete])).usage.promptTokens = 90 := by
  decide +kernel

end NewApi.Proof
