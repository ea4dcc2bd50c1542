import NewApi.Relay.ClaudeMessages

/-!
# Chat streams for Claude clients

The chunks of an OpenAI stream are turned into events of a Claude stream. The converter keeps which blocks are open; the
handler holds one chunk back, to convert the last one with the final usage.
-/

namespace NewApi.Relay

structure ToolCallResponse where
  index : Option Nat := none
  (id name arguments : String := "")

structure ChatCompletionsStreamResponseChoiceDelta where
  (content reasoningContent reasoning : Option String := none)
  toolCalls : List ToolCallResponse := []

namespace ChatCompletionsStreamResponseChoiceDelta

def getContentString (delta : ChatCompletionsStreamResponseChoiceDelta) : String := delta.content.getD ""

def getReasoningContent (delta : ChatCompletionsStreamResponseChoiceDelta) :
    String := (delta.reasoningContent.or delta.reasoning).getD ""

end ChatCompletionsStreamResponseChoiceDelta

structure ChatCompletionsStreamResponseChoice where
  delta : ChatCompletionsStreamResponseChoiceDelta := {}
  finishReason : Option String := none

def ChatCompletionsStreamResponseChoice.isFinished (choice : ChatCompletionsStreamResponseChoice) :
    Bool := choice.finishReason.any (· ≠ "")

structure ChatCompletionsStreamResponse where
  (id model : String := "")
  choices : List ChatCompletionsStreamResponseChoice := []
  usage : Option Usage := none

inductive ContentBlock where
  | text
  | thinking
  | toolUse (id name : String)

inductive ContentDelta where
  | textDelta (text : String)
  | thinkingDelta (thinking : String)
  | inputJsonDelta (partialJson : String)

inductive ClaudeStreamEvent where
  | messageStart (id model : String) (inputTokens : Int)
  | contentBlockStart (index : Nat) (block : ContentBlock)
  | contentBlockDelta (index : Nat) (delta : ContentDelta)
  | contentBlockStop (index : Nat)
  | messageDelta (usage : ClaudeUsage) (stopReason : String)
  | messageStop

inductive LastMessageType where
  | none | text | tools | thinking
deriving DecidableEq

structure ClaudeConvertInfo where
  lastMessagesType : LastMessageType := .none
  index : Nat := 0
  usage : Option Usage := none
  finishReason : String := ""
  done : Bool := false
  (toolCallBaseIndex toolCallMaxIndexOffset : Nat := 0)

def buildClaudeUsageFromOpenAIUsage (oaiUsage : Usage) : ClaudeUsage :=
  let own := oaiUsage.billingUsage.bind fun billing =>
    if billing.source = BillingUsage.sourceClaudeMessages ∨
      billing.semantic = BillingUsage.semanticAnthropic then billing.claudeUsage else none
  own.getD
    (let details := oaiUsage.promptTokensDetails
     let split := normalizeCacheCreationSplit details.cachedCreationTokens
       oaiUsage.claudeCacheCreation5mTokens oaiUsage.claudeCacheCreation1hTokens
     let cacheCreationTokens := details.cacheCreationTokensTotal
     let rest := oaiUsage.promptTokens - details.cachedTokens - cacheCreationTokens
     { inputTokens := if 0 < details.cacheWriteTokens then (if rest < 0 then 0 else rest) else oaiUsage.promptTokens
       outputTokens := oaiUsage.completionTokens
       cacheCreationInputTokens := cacheCreationTokens
       cacheReadInputTokens := details.cachedTokens
       cacheCreation := if 0 < split.1 ∨ 0 < split.2 then some ⟨split.1, split.2⟩ else none })

def toLowerChar (c : Char) : Char := if c = 'K' then 'k' else if c = 'İ' then 'i' else c.toLower

def stopReasonOpenAI2Claude (reason : String) : String :=
  let lower := reason.map toLowerChar
  if lower = "stop" then "end_turn"
  else if lower = "stop_sequence" then "stop_sequence"
  else if lower = "length" ∨ lower = "max_tokens" then "max_tokens"
  else if lower = "content_filter" then "refusal"
  else if lower = "tool_calls" then "tool_use"
  else reason

namespace ClaudeConvertInfo
variable (info : ClaudeConvertInfo)

def stopOpenBlocks : List ClaudeStreamEvent :=
  match info.lastMessagesType with
  | .text | .thinking => [.contentBlockStop info.index]
  | .tools => (List.range (info.toolCallMaxIndexOffset + 1)).map fun offset =>
      .contentBlockStop (info.toolCallBaseIndex + offset)
  | .none => []

def advance : ClaudeConvertInfo :=
  match info.lastMessagesType with
  | .none => info
  | .tools => { info with
      index := info.toolCallBaseIndex + info.toolCallMaxIndexOffset + 1
      toolCallBaseIndex := 0
      toolCallMaxIndexOffset := 0
      lastMessagesType := .none }
  | _ => { info with index := info.index + 1, lastMessagesType := .none }

def stopOpenBlocksAndAdvance : List ClaudeStreamEvent × ClaudeConvertInfo := (info.stopOpenBlocks, info.advance)

def finish (usage : Option Usage) : List ClaudeStreamEvent × ClaudeConvertInfo :=
  let messageDelta := (usage.or info.usage).map fun usage =>
    ClaudeStreamEvent.messageDelta (buildClaudeUsageFromOpenAIUsage usage) (stopReasonOpenAI2Claude info.finishReason)
  (info.stopOpenBlocks ++ messageDelta.toList ++ [.messageStop], { info with done := true })

end ClaudeConvertInfo

def firstToolCall (delta : ChatCompletionsStreamResponseChoiceDelta) (info : ClaudeConvertInfo) :
    List ClaudeStreamEvent × ClaudeConvertInfo :=
  match delta.toolCalls with
  | [] => ([], info)
  | toolCall :: _ =>
    let start := ClaudeStreamEvent.contentBlockStart 0 (.toolUse toolCall.id toolCall.name)
    let fragment := if toolCall.arguments ≠ "" then [ClaudeStreamEvent.contentBlockDelta 0
      (.inputJsonDelta toolCall.arguments)] else []
    (start :: fragment, { info with lastMessagesType := .tools, toolCallBaseIndex := 0, toolCallMaxIndexOffset := 0 })

/-- A block of another type takes the place of the open ones. `again` if a block of the type is
started even if one is open. -/
def contentEvents (type : LastMessageType) (block : ContentBlock) (delta : ContentDelta)
    (again : Bool) (info : ClaudeConvertInfo) :
    List ClaudeStreamEvent × ClaudeConvertInfo :=
  if info.lastMessagesType = type then
    ((if again then [.contentBlockStart info.index block] else []) ++ [.contentBlockDelta info.index delta], info)
  else
    let (stops, info) := info.stopOpenBlocksAndAdvance
    (stops ++ [.contentBlockStart info.index block, .contentBlockDelta info.index delta],
      { info with lastMessagesType := type })

def textEvents (again : Bool) (delta : ChatCompletionsStreamResponseChoiceDelta) (info : ClaudeConvertInfo) :
    List ClaudeStreamEvent × ClaudeConvertInfo :=
  let reasoning := delta.getReasoningContent
  let content := delta.getContentString
  if reasoning ≠ "" then contentEvents .thinking .thinking (.thinkingDelta reasoning) again info
  else if content ≠ "" then contentEvents .text .text (.textDelta content) again info
  else ([], info)

def firstChunk (estimatePromptTokens : Int) (chunk : ChatCompletionsStreamResponse) (info : ClaudeConvertInfo) :
    List ClaudeStreamEvent × ClaudeConvertInfo :=
  let start := ClaudeStreamEvent.messageStart chunk.id chunk.model estimatePromptTokens
  match chunk.choices with
  | [] => ([start], info)
  | choice :: _ =>
    let (tools, info) := firstToolCall choice.delta info
    let (texts, info) := textEvents true choice.delta info
    if choice.isFinished then
      let (ends, info) := { info with finishReason := choice.finishReason.getD "" }.finish chunk.usage
      (start :: tools ++ texts ++ ends, info)
    else (start :: tools ++ texts, info)

def toolCallOffset (toolCall : ToolCallResponse × Nat) : Nat := toolCall.1.index.getD toolCall.2

def toolCallEvents (base : Nat) (toolCall : ToolCallResponse × Nat) : List ClaudeStreamEvent :=
  let index := base + toolCallOffset toolCall
  (if toolCall.1.name ≠ "" then [.contentBlockStart index (.toolUse toolCall.1.id toolCall.1.name)] else []) ++
    (if toolCall.1.arguments ≠ "" then [.contentBlockDelta index (.inputJsonDelta toolCall.1.arguments)] else [])

def toolEvents (toolCalls : List ToolCallResponse) (info : ClaudeConvertInfo) :
    List ClaudeStreamEvent × ClaudeConvertInfo :=
  let (stops, info) :=
    if info.lastMessagesType = .tools then ([], info)
    else
      let (stops, info) := info.stopOpenBlocksAndAdvance
      (stops, { info with toolCallBaseIndex := info.index, toolCallMaxIndexOffset := 0 })
  let base := info.toolCallBaseIndex
  let maxOffset := (toolCalls.zipIdx.map toolCallOffset).foldl max info.toolCallMaxIndexOffset
  (stops ++ toolCalls.zipIdx.flatMap (toolCallEvents base),
    { info with lastMessagesType := .tools, toolCallMaxIndexOffset := maxOffset, index := base + maxOffset })

def deltaEvents (delta : ChatCompletionsStreamResponseChoiceDelta) (info : ClaudeConvertInfo) :
    List ClaudeStreamEvent × ClaudeConvertInfo :=
  if delta.toolCalls ≠ [] then toolEvents delta.toolCalls info else textEvents false delta info

def laterChunk (chunk : ChatCompletionsStreamResponse) (info : ClaudeConvertInfo) :
    List ClaudeStreamEvent × ClaudeConvertInfo :=
  match chunk.choices with
  | [] =>
    match chunk.usage.or info.usage with
    | none => ([], info)
    | some usage =>
      let stopReason := stopReasonOpenAI2Claude info.finishReason
      (info.stopOpenBlocks ++
        [.messageDelta (buildClaudeUsageFromOpenAIUsage usage)
          (if stopReason = "" then "end_turn" else stopReason), .messageStop],
        { info with done := true })
  | choice :: _ =>
    let info := if choice.isFinished then { info with finishReason := choice.finishReason.getD "" } else info
    if choice.isFinished && chunk.usage.isNone then ([], info)
    else
      let (events, info) := deltaEvents choice.delta info
      if choice.isFinished || info.done then
        let (ends, info) := info.finish chunk.usage
        (events ++ ends, info)
      else (events, info)

structure ClaudeStreamInfo where
  estimatePromptTokens : Int := 0
  sendResponseCount : Nat := 0
  convert : ClaudeConvertInfo := {}

def streamResponseOpenAI2Claude (chunk : ChatCompletionsStreamResponse) (info : ClaudeStreamInfo) :
    List ClaudeStreamEvent × ClaudeStreamInfo :=
  if info.convert.done then ([], info)
  else
    let (events, convert) :=
      if info.sendResponseCount = 1 then firstChunk info.estimatePromptTokens chunk
        info.convert else laterChunk chunk info.convert
    (events, { info with convert := convert })

def handleStreamFormat (info : ClaudeStreamInfo) (chunk : ChatCompletionsStreamResponse) :
    List ClaudeStreamEvent × ClaudeStreamInfo :=
  streamResponseOpenAI2Claude chunk { info with
    sendResponseCount := info.sendResponseCount + 1
    convert := { info.convert with usage := chunk.usage.or info.convert.usage } }

def handleFinalResponse (info : ClaudeStreamInfo) (lastStreamData : ChatCompletionsStreamResponse)
    (usage : Usage) : List ClaudeStreamEvent :=
  (streamResponseOpenAI2Claude lastStreamData { info with convert := { info.convert with usage := some usage } }).1

structure OaiStreamState where
  info : ClaudeStreamInfo
  lastStreamData : Option ChatCompletionsStreamResponse := none
  sent : List ClaudeStreamEvent := []

def OaiStreamState.handle (state : OaiStreamState) (data : ChatCompletionsStreamResponse) : OaiStreamState :=
  match state.lastStreamData with
  | none => { state with lastStreamData := some data }
  | some last =>
    let (events, info) := handleStreamFormat state.info last
    { info := info, lastStreamData := some data, sent := state.sent ++ events }

def oaiStreamHandler (estimatePromptTokens : Int) (usage : Usage)
    (chunks : List ChatCompletionsStreamResponse) : List ClaudeStreamEvent :=
  let state := chunks.foldl OaiStreamState.handle { info := { estimatePromptTokens := estimatePromptTokens } }
  match state.lastStreamData with
  | none => []
  | some last => state.sent ++ handleFinalResponse state.info last usage

end NewApi.Relay
