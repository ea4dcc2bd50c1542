import NewApi.Relay.ChatToClaude

/-! # One chunk through the converter -/

namespace NewApi.Proof
open Relay

def carried (info : ClaudeConvertInfo) : Bool × Option Usage := (info.done, info.usage)

theorem advance_carried (info) : carried info.advance = carried info := by
  unfold ClaudeConvertInfo.advance
  split <;> rfl

theorem textEvents_cases {result : List ClaudeStreamEvent × ClaudeConvertInfo → Prop} {again : Bool} {info}
    (delta) (content : ∀ type block delta, result (contentEvents type block delta again info))
    (nothing : result ([], info)) : result (textEvents again delta info) := by
  unfold textEvents
  simp only
  split
  · exact content ..
  · split
    · exact content ..
    · exact nothing

theorem textEvents_carried (again : Bool) (delta info) : carried (textEvents again delta info).2 = carried info := by
  apply @textEvents_cases fun written => carried written.2 = carried info
  · intro _ _ _
    unfold contentEvents
    split
    · rfl
    · exact advance_carried info
  · rfl

theorem toolEvents_carried (toolCalls info) : carried (toolEvents toolCalls info).2 = carried info := by
  unfold toolEvents
  by_cases type : info.lastMessagesType = .tools
  · simp only [if_pos type]
    rfl
  · simp only [if_neg type, ClaudeConvertInfo.stopOpenBlocksAndAdvance]
    exact advance_carried info

theorem deltaEvents_carried (delta info) : carried (deltaEvents delta info).2 = carried info := by
  unfold deltaEvents
  split
  · exact toolEvents_carried ..
  · exact textEvents_carried ..

theorem laterChunk_eq {info chunk choice rest} (going : info.done = false) (choices : chunk.choices = choice :: rest) :
    laterChunk chunk info =
      if choice.isFinished then
        let named := { info with finishReason := choice.finishReason.getD "" }
        if chunk.usage.isNone then ([], named)
        else
          let written := deltaEvents choice.delta named
          (written.1 ++ (written.2.finish chunk.usage).1, (written.2.finish chunk.usage).2)
      else deltaEvents choice.delta info := by
  unfold laterChunk
  rw [choices]
  cases finished : choice.isFinished with
  | true => cases unused : chunk.usage.isNone <;> simp [finished]
  | false =>
    have still : (deltaEvents choice.delta info).2.done = false :=
      (congrArg Prod.fst (deltaEvents_carried choice.delta info)).trans going
    simp [finished, still]

section Chunk
variable (chunk : ChatCompletionsStreamResponse)
include chunk

theorem laterChunk_usage {info} (going : info.done = false) : (laterChunk chunk info).2.usage = info.usage := by
  cases choices : chunk.choices with
  | nil =>
    unfold laterChunk
    rw [choices]
    cases chunk.usage.or info.usage <;> rfl
  | cons choice =>
    have same : ∀ reason, (deltaEvents choice.delta { info with finishReason := reason }).2.usage = info.usage :=
      fun reason => congrArg Prod.snd (deltaEvents_carried choice.delta { info with finishReason := reason })
    rw [laterChunk_eq going choices]
    cases choice.isFinished with
    | false => exact same info.finishReason
    | true =>
      cases chunk.usage.isNone with
      | true => rfl
      | false => exact same _

theorem format_over {info} (done : info.convert.done = true) : handleStreamFormat info chunk = ([], { info with
      sendResponseCount := info.sendResponseCount + 1
      convert := { info.convert with usage := chunk.usage.or info.convert.usage } }) := by
  simp only [handleStreamFormat, streamResponseOpenAI2Claude, done, if_true]

theorem format_later {info} (begun : 1 ≤ info.sendResponseCount) (going : info.convert.done = false) :
    handleStreamFormat info chunk =
      ((laterChunk chunk { info.convert with usage := chunk.usage.or info.convert.usage }).1, { info with
        sendResponseCount := info.sendResponseCount + 1
        convert := (laterChunk chunk { info.convert with usage := chunk.usage.or info.convert.usage }).2 }) := by
  have later : ¬info.sendResponseCount + 1 = 1 := by omega
  simp only [handleStreamFormat, streamResponseOpenAI2Claude, going, Bool.false_eq_true, if_false, if_neg later]

theorem format_usage {info} (begun : 1 ≤ info.sendResponseCount) :
    (handleStreamFormat info chunk).2.convert.usage.isSome = (info.convert.usage.isSome || chunk.usage.isSome) := by
  have known : (chunk.usage.or info.convert.usage).isSome = (info.convert.usage.isSome || chunk.usage.isSome) := by
    rw [Option.isSome_or, Bool.or_comm]
  cases done : info.convert.done with
  | true =>
    rw [format_over chunk done]
    exact known
  | false =>
    rw [format_later chunk begun done, ← known]
    exact congrArg Option.isSome (laterChunk_usage chunk done)

end Chunk

theorem format_count (info chunk) : (handleStreamFormat info chunk).2.sendResponseCount =
    info.sendResponseCount + 1 := by
  unfold handleStreamFormat streamResponseOpenAI2Claude
  split <;> rfl

theorem first_carried (delta usage) :
    carried (textEvents true delta (firstToolCall delta { usage := usage }).2).2 = (false, usage) := by
  rw [textEvents_carried]
  unfold firstToolCall
  split <;> rfl

abbrev unsent (estimatePromptTokens : Int) : ClaudeStreamInfo := { estimatePromptTokens := estimatePromptTokens }

theorem first_usage (estimatePromptTokens : Int) (first) :
    (handleStreamFormat (unsent estimatePromptTokens) first).2.convert.usage = first.usage := by
  have firstChunk_usage :
    (firstChunk estimatePromptTokens first { usage := first.usage.or none }).2.usage = first.usage := by
    unfold firstChunk
    cases first.choices with
    | nil => exact Option.or_none
    | cons choice =>
      have same := congrArg Prod.snd (first_carried choice.delta (first.usage.or none))
      simp only
      split
      · exact same.trans Option.or_none
      · exact same.trans Option.or_none
  exact firstChunk_usage

theorem firstChunk_starts (estimatePromptTokens : Int) (chunk info) :
    ∃ events, (firstChunk estimatePromptTokens chunk info).1 =
      .messageStart chunk.id chunk.model estimatePromptTokens :: events := by
  unfold firstChunk
  cases chunk.choices with
  | nil => exact ⟨[], rfl⟩
  | cons =>
    simp only [List.cons_append]
    split <;> exact ⟨_, rfl⟩

def saying (text : String) : ChatCompletionsStreamResponse := { choices := [{ delta := { content := some text } }] }

def calling (toolCalls : List ToolCallResponse) : ChatCompletionsStreamResponse :=
    { choices := [{ delta := { toolCalls := toolCalls } }] }

def finishing (text : String) (usage : Option Usage) : ChatCompletionsStreamResponse :=
  { choices := [{ delta := { content := some text }, finishReason := some "stop" }], usage := usage }

end NewApi.Proof
