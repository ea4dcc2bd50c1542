import NewApi.Relay.TextQuota

/-!
# Responses

The usage of an answer or a stream comes with the final object. The calls of built-in tools are
counted from the declared tools in the one case and from the delivered items in the other.
-/

namespace NewApi.Relay

structure ResponsesOutput where
  type : String
  (quality size : String := "")
deriving DecidableEq

structure OpenAIResponsesResponse where
  error : Option String := none
  output : List ResponsesOutput := []
  tools : List String := []
  usage : Option Usage := none

def responsesOutputTypeImageGenerationCall : String := "image_generation_call"

def responsesOutputTypeItemDone : String := "response.output_item.done"

def buildInCallWebSearchCall : String := "web_search_call"

def OpenAIResponsesResponse.imageGenerationCall (response : OpenAIResponsesResponse) : Option (String × String) :=
  (response.output.find? (·.type = responsesOutputTypeImageGenerationCall)).map fun output =>
    (output.quality, output.size)

def RelayContext.noteImageGenerationCall (ctx : RelayContext) (response : OpenAIResponsesResponse) : RelayContext :=
  match response.imageGenerationCall with
  | some call => { ctx with imageGenerationCall := some call }
  | none => ctx

def countCall (tools : BuiltInTools) (tool : String) : BuiltInTools :=
  tools.map fun entry => if entry.1 = tool then (entry.1, entry.2 + 1) else entry

def newBuiltInTools (tools : List String) : BuiltInTools := tools.dedup.map fun tool => (tool, 0)

structure ResponsesOutcome where
  usage : Usage
  ctx : RelayContext
  info : RelayInfo

def responsesUsage (reported : Option Usage) : Usage :=
  match reported with
  | none => {}
  | some reported =>
    let details := reported.inputTokensDetails.getD {}
    { promptTokens := reported.inputTokens
      completionTokens := reported.outputTokens
      totalTokens := reported.totalTokens
      promptTokensDetails := { cachedTokens := details.cachedTokens, cacheWriteTokens := details.cacheWriteTokens } }

def oaiResponsesHandler (ctx : RelayContext) (info : RelayInfo)
    (response : OpenAIResponsesResponse) : Except String ResponsesOutcome :=
  if response.error.getD "" ≠ "" then .error (response.error.getD "")
  else .ok {
    usage := responsesUsage response.usage
    ctx := ctx.noteImageGenerationCall response
    info := { info with builtInTools := info.builtInTools.map fun tools => response.tools.foldl countCall tools } }

structure ResponsesStreamResponse where
  type : String
  response : Option OpenAIResponsesResponse := none
  delta : String := ""
  item : Option ResponsesOutput := none

structure ResponsesStream extends ResponsesOutcome where
  text : String := ""

def completedUsage (usage : Usage) (reported : Usage) : Usage :=
  let details := match reported.inputTokensDetails with
    | some details =>
      { usage.promptTokensDetails with cachedTokens := details.cachedTokens, cacheWriteTokens :=
        details.cacheWriteTokens }
    | none => usage.promptTokensDetails
  { usage with
    promptTokens := if reported.inputTokens ≠ 0 then reported.inputTokens else usage.promptTokens
    completionTokens := if reported.outputTokens ≠ 0 then reported.outputTokens else usage.completionTokens
    totalTokens := if reported.totalTokens ≠ 0 then reported.totalTokens else usage.totalTokens
    promptTokensDetails := details }

def handleResponsesEvent (stream : ResponsesStream) (event : ResponsesStreamResponse) : ResponsesStream :=
  if event.type = "response.completed" then
    match event.response with
    | none => stream
    | some response =>
      { stream with
        usage := (response.usage.map (completedUsage stream.usage)).getD stream.usage
        ctx := stream.ctx.noteImageGenerationCall response }
  else if event.type = "response.output_text.delta" then { stream with text := stream.text ++ event.delta }
  else if event.type = responsesOutputTypeItemDone then
    match event.item with
    | none => stream
    | some item =>
      if item.type = buildInCallWebSearchCall then
        { stream with
          info := { stream.info with
            builtInTools := stream.info.builtInTools.map fun tools => countCall tools buildInToolWebSearchPreview } }
      else stream
  else stream

def repairResponsesUsage (counted : String → Nat) (estimated : Int) (text : String) (usage : Usage) : Usage :=
  let completion : Int := if usage.completionTokens = 0 ∧ text ≠ "" then counted text else usage.completionTokens
  let prompt := if usage.promptTokens = 0 ∧ completion ≠ 0 then estimated else usage.promptTokens
  { usage with promptTokens := prompt, completionTokens := completion, totalTokens := prompt + completion }

def oaiResponsesStreamHandler (counted : String → Nat) (ctx : RelayContext) (info : RelayInfo)
    (events : List ResponsesStreamResponse) :
    ResponsesOutcome :=
  let stream := events.foldl handleResponsesEvent { usage := {}, ctx := ctx, info := info }
  { usage := repairResponsesUsage counted info.estimatePromptTokens stream.text stream.usage, ctx :=
    stream.ctx, info := stream.info }

end NewApi.Relay
