import NewApi.Proof.ClaudeClient
import NewApi.Proof.ConvertSteps

/-! # Legal Claude streams -/

namespace NewApi.Proof
open Relay Library ClaudeConvertInfo Client List

/-! ## One chunk -/

inductive Follows (info : ClaudeConvertInfo) : Seen → Client → Prop
  | ongoing {run client} (going : info.done = false) (tracks : Tracks info run client) :
      Follows info (.ongoing run) client
  | closed (done : info.done = true) : Follows info .closed .ended

variable {client : Client}

theorem close_lockstep {info after run ends} (tracks : Tracks info run client) (done : after.done = true)
    (accepted : ∀ stopped, ends.foldlM accept (.reading [] stopped) = some .ended) :
    Option.Rel (Follows after) ((leave run).map fun _ => .closed)
      ((info.stopOpenBlocks ++ ends).foldlM accept client) := by
  rw [foldlM_append, Option.map_eq_bind]
  apply rel_bind (leave_lockstep tracks)
  intro _ _ advanced
  obtain ⟨_, stopped, rfl, _⟩ := advanced.opened_nil
  rw [accepted stopped]
  exact .some (.closed done)

theorem finish_lockstep {info run} (usage) (tracks : Tracks info run client) :
    Option.Rel (Follows (info.finish usage).2) ((leave run).map fun _ => .closed)
      ((info.finish usage).1.foldlM accept client) := by
  simp only [finish, append_assoc]
  apply close_lockstep tracks rfl
  intro _
  cases usage.or info.usage <;> rfl

theorem delta_lockstep {info run} (delta) (tracks : Tracks info run client) :
    Option.Rel (Tracks (deltaEvents delta info).2) (scanDelta delta run)
      ((deltaEvents delta info).1.foldlM accept client) := by
  unfold deltaEvents scanDelta
  by_cases tools : delta.toolCalls ≠ []
  · simp only [if_pos tools]
    exact tools_lockstep delta.toolCalls tracks
  · simp only [if_neg tools]
    exact text_lockstep delta tracks (by simp)

theorem later_lockstep {info run} (chunk) (going : info.done = false) (tracks : Tracks info run client) :
    Option.Rel (Follows (laterChunk chunk info).2) (scanChunk (chunk.usage.or info.usage).isSome chunk run)
      ((laterChunk chunk info).1.foldlM accept client) := by
  cases choices : chunk.choices with
  | nil =>
    unfold laterChunk scanChunk
    rw [choices]
    cases chunk.usage.or info.usage with
    | none => exact .some (.ongoing going tracks)
    | some => exact close_lockstep tracks rfl fun _ => rfl
  | cons choice =>
    rw [laterChunk_eq going choices]
    unfold scanChunk
    rw [choices]
    cases finished : choice.isFinished with
    | true =>
      cases unused : chunk.usage.isNone with
      | true =>
        simp only [finished, Bool.and_self, if_true]
        exact .some (.ongoing going (tracks.with_reason info.usage _))
      | false =>
        simp only [finished, if_true, Bool.and_false, Bool.false_eq_true, if_false, foldlM_append]
        apply rel_bind (delta_lockstep choice.delta (tracks.with_reason info.usage _))
        intro run _ reached
        exact finish_lockstep chunk.usage reached
    | false =>
      simp only [finished, Bool.false_and, Bool.false_eq_true, if_false]
      rw [show (fun run => some (Seen.ongoing run)) = some ∘ Seen.ongoing from rfl, ← Option.map_eq_bind]
      apply rel_map (delta_lockstep choice.delta tracks)
      intro _ _ _ reached
      exact .ongoing ((congrArg Prod.fst (deltaEvents_carried choice.delta info)).trans going) reached

/-! ## The first chunk -/

section FirstDelta
variable (delta : ChatCompletionsStreamResponseChoiceDelta)

theorem leave_firstRun : leave (firstRun delta) = some none := by
  unfold firstRun
  split <;> rfl

theorem firstToolCall_lockstep (usage) :
    Option.Rel (Tracks (firstToolCall delta { usage := usage }).2) (some (firstRun delta))
      ((firstToolCall delta { usage := usage }).1.foldlM accept (.reading [] [])) := by
  unfold firstToolCall firstRun
  cases delta.toolCalls with
  | nil => exact .some (.idle rfl (by simp))
  | cons toolCall =>
    by_cases arguments : toolCall.arguments ≠ ""
    · simp only [if_pos arguments]
      exact .some (@Tracks.tools _ ⟨[0], 0⟩ [] rfl rfl (by simp) (by simp))
    · simp only [if_neg arguments]
      exact .some (@Tracks.tools _ ⟨[0], 0⟩ [] rfl rfl (by simp) (by simp))

theorem firstDelta_lockstep (usage) :
    Option.Rel (Tracks (textEvents true delta (firstToolCall delta { usage := usage }).2).2) (some (afterFirst delta))
      (((firstToolCall delta { usage := usage }).1 ++
        (textEvents true delta (firstToolCall delta { usage := usage }).2).1).foldlM
        accept (.reading [] [])) := by
  have scanned : some (afterFirst delta) = (some (firstRun delta)).bind fun run =>
      if delta.getReasoningContent ≠ "" ∨ delta.getContentString ≠ "" then leave run else some run := by
    rw [Option.bind_some, leave_firstRun, afterFirst, ← apply_ite some]
  rw [scanned, foldlM_append]
  apply rel_bind (firstToolCall_lockstep delta usage)
  intro _ _ tracks
  refine text_lockstep delta tracks fun _ => ?_
  unfold firstToolCall
  split <;> rfl

theorem leave_afterFirst : leave (afterFirst delta) = some none := by
  unfold afterFirst
  split
  · rfl
  · exact leave_firstRun delta

end FirstDelta

theorem first_lockstep (estimatePromptTokens : Int) (chunk usage) :
    Option.Rel (Follows (firstChunk estimatePromptTokens chunk { usage := usage }).2) (some (scanFirst chunk))
      ((firstChunk estimatePromptTokens chunk { usage := usage }).1.foldlM accept .waiting) := by
  unfold firstChunk scanFirst
  cases chunk.choices with
  | nil => exact .some (.ongoing rfl (.idle rfl (by simp)))
  | cons choice =>
    have opened := firstDelta_lockstep choice.delta usage
    by_cases finished : choice.isFinished = true
    · simp only [if_pos finished, cons_append, foldlM_cons]
      have closed : some Seen.closed = (some (afterFirst choice.delta)).bind fun run =>
        (leave run).map fun _ => .closed := by
        rw [Option.bind_some, leave_afterFirst, Option.map_some]
      rw [closed]
      show Option.Rel _ _ (foldlM accept (.reading [] []) _)
      rw [foldlM_append]
      apply rel_bind opened
      intro _ _ tracks
      exact finish_lockstep chunk.usage (tracks.with_reason _ _)
    · simp only [if_neg finished, cons_append, foldlM_cons]
      show Option.Rel _ _ (foldlM accept (.reading [] []) _)
      apply @rel_map _ _ _ _ _ _ Seen.ongoing _ opened
      intro _ _ _ tracks
      exact .ongoing (congrArg Prod.fst (first_carried choice.delta usage)) tracks

/-! ## Streams of one chunk -/

def starts : ClaudeStreamEvent → Bool
  | .messageStart .. => true
  | _ => false

@[simp] theorem stopOpenBlocks_starts (info : ClaudeConvertInfo) : info.stopOpenBlocks.any starts = false := by
  unfold stopOpenBlocks
  split <;> simp [starts]

theorem textEvents_starts (again : Bool) (delta info) : (textEvents again delta info).1.any starts = false := by
  apply @textEvents_cases fun written => written.1.any starts = false
  · intro _ _ _
    unfold contentEvents
    split
    · split <;> rfl
    · simp [stopOpenBlocksAndAdvance, starts]
  · rfl

theorem toolEvents_starts (toolCalls info) : (toolEvents toolCalls info).1.any starts = false := by
  have calls : ∀ base toolCall, (toolCallEvents base toolCall).any starts = false := by
    intro _ _
    unfold toolCallEvents
    rw [any_append]
    split <;> split <;> rfl
  by_cases type : info.lastMessagesType = .tools
  · simp only [toolEvents, if_pos type, nil_append, any_flatMap, calls]
    simp
  · simp only [toolEvents, if_neg type, stopOpenBlocksAndAdvance, any_append, stopOpenBlocks_starts,
      any_flatMap, calls]
    simp

theorem deltaEvents_starts (delta info) : (deltaEvents delta info).1.any starts = false := by
  unfold deltaEvents
  split
  · exact toolEvents_starts ..
  · exact textEvents_starts ..

theorem finish_starts (usage : Option Usage) (info : ClaudeConvertInfo) : (info.finish usage).1.any starts = false := by
  simp only [finish, any_append, stopOpenBlocks_starts]
  cases usage.or info.usage <;> rfl

theorem later_starts {info} (chunk) (going : info.done = false) : (laterChunk chunk info).1.any starts = false := by
  cases choices : chunk.choices with
  | nil =>
    unfold laterChunk
    rw [choices]
    cases chunk.usage.or info.usage with
    | none => rfl
    | some => simp [starts]
  | cons choice =>
    rw [laterChunk_eq going choices]
    cases choice.isFinished with
    | false => exact deltaEvents_starts ..
    | true =>
      cases chunk.usage.isNone with
      | true => rfl
      | false => simp [deltaEvents_starts, finish_starts]

theorem waiting_stays {events : List ClaudeStreamEvent} (unstarted : events.any starts = false) :
    events.foldlM accept .waiting ≠ some .ended := by
  cases events with
  | nil => simp
  | cons event =>
    cases event with
    | messageStart => simp [starts] at unstarted
    | _ => simp [accept]

/-! ## The handler -/

variable {seen : Seen} {client : Client}

theorem Follows.closed_iff {info} (follows : Follows info seen client) : seen = .closed ↔ client = .ended := by
  cases follows with
  | closed => simp
  | ongoing _ tracks => cases tracks <;> simp

theorem Follows.with_usage {info} (follows : Follows info seen client)
    (usage) : Follows { info with usage := usage } seen client := by
  cases follows with
  | closed done => exact .closed done
  | ongoing going tracks => exact .ongoing going (tracks.with_reason usage _)

theorem convert_lockstep {info} (chunk) (later : info.sendResponseCount ≠ 1)
    (follows : Follows info.convert seen client) :
    Option.Rel (Follows (streamResponseOpenAI2Claude chunk info).2.convert)
      (seen.next (chunk.usage.or info.convert.usage).isSome chunk)
      ((streamResponseOpenAI2Claude chunk info).1.foldlM accept client) := by
  unfold streamResponseOpenAI2Claude
  cases follows with
  | closed done =>
    simp only [if_pos done]
    exact .some (.closed done)
  | ongoing going tracks =>
    simp only [going, Bool.false_eq_true, if_false, if_neg later]
    exact later_lockstep chunk going tracks

theorem format_lockstep {info} (chunk) (begun : 1 ≤ info.sendResponseCount)
    (follows : Follows info.convert seen client) :
    Option.Rel (Follows (handleStreamFormat info chunk).2.convert)
      (seen.next (info.convert.usage.isSome || chunk.usage.isSome) chunk)
      ((handleStreamFormat info chunk).1.foldlM accept client) := by
  have known : (info.convert.usage.isSome || chunk.usage.isSome) =
    (chunk.usage.or (chunk.usage.or info.convert.usage)).isSome := by
    cases chunk.usage <;> simp
  have later : info.sendResponseCount + 1 ≠ 1 := by omega
  rw [known]
  exact convert_lockstep chunk later (follows.with_usage _)

def sentFrom (usage : Usage) (info : ClaudeStreamInfo) (held : ChatCompletionsStreamResponse) :
    List ChatCompletionsStreamResponse → List ClaudeStreamEvent
  | [] => handleFinalResponse info held usage
  | next :: rest => (handleStreamFormat info held).1 ++ sentFrom usage (handleStreamFormat info held).2 next rest

theorem handler_sent (usage info held) (rest : List ChatCompletionsStreamResponse) (sent : List ClaudeStreamEvent) :
    (match (rest.foldl OaiStreamState.handle ⟨info, some held, sent⟩).lastStreamData with
      | none => []
      | some last =>
        (rest.foldl OaiStreamState.handle ⟨info, some held, sent⟩).sent ++
          handleFinalResponse (rest.foldl OaiStreamState.handle ⟨info, some held, sent⟩).info last usage) =
      sent ++ sentFrom usage info held rest := by
  induction rest generalizing info held sent with
  | nil => rfl
  | cons _ _ ih =>
    rw [foldl_cons, sentFrom, ← append_assoc]
    exact ih ..

theorem oaiStreamHandler_cons (estimatePromptTokens : Int) (usage first) (rest : List ChatCompletionsStreamResponse) :
    oaiStreamHandler estimatePromptTokens usage (first :: rest) =
      sentFrom usage (unsent estimatePromptTokens) first rest :=
  handler_sent usage _ first rest []

theorem sent_iff {info} (usage held) (rest : List ChatCompletionsStreamResponse) (begun : 1 ≤ info.sendResponseCount)
    (later : rest = [] → info.sendResponseCount ≠ 1) (follows : Follows info.convert seen client) :
    fitsFrom info.convert.usage.isSome seen held rest = true ↔
      (sentFrom usage info held rest).foldlM accept client = some .ended := by
  induction rest generalizing info seen client held with
  | nil =>
    have lockstep := @convert_lockstep _ _ { info with convert :=
      { info.convert with usage := some usage } } held (later rfl)
      (follows.with_usage _)
    have known : (held.usage.or (some usage)).isSome = true := by simp
    rw [known] at lockstep
    rw [fitsFrom, decide_eq_true_eq]
    exact rel_eq_iff lockstep fun _ _ reached => reached.closed_iff
  | cons next _ ih =>
    rw [sentFrom, foldlM_append, fitsFrom]
    apply rel_any_iff (format_lockstep held begun follows)
    intro _ _ reached
    rw [← format_usage held begun]
    have count := format_count info held
    exact ih next (by omega) (fun _ => by omega) reached

theorem first_follows (estimatePromptTokens : Int) (first) :
    Option.Rel (Follows (handleStreamFormat (unsent estimatePromptTokens) first).2.convert) (some (scanFirst first))
      ((handleStreamFormat (unsent estimatePromptTokens) first).1.foldlM accept .waiting) :=
  first_lockstep estimatePromptTokens first (first.usage.or none)

theorem second_iff {info} (usage chunk) (first : info.sendResponseCount = 1)
    (follows : Follows info.convert seen client) :
    (handleFinalResponse info chunk usage).foldlM accept client = some .ended ↔ seen = .closed := by
  unfold handleFinalResponse streamResponseOpenAI2Claude
  cases follows with
  | closed done => simp [done]
  | ongoing going tracks =>
    simp only [going, Bool.false_eq_true, if_false, first, if_true]
    obtain ⟨_, start⟩ := firstChunk_starts info.estimatePromptTokens chunk _
    rw [start, foldlM_cons]
    cases tracks <;> simp [accept]

theorem stream_legal_iff (estimatePromptTokens : Int) (usage : Usage) (chunks : List ChatCompletionsStreamResponse) :
    Legal (oaiStreamHandler estimatePromptTokens usage chunks) ↔ fits chunks = true := by
  unfold Legal
  cases chunks with
  | nil => simp [oaiStreamHandler, fits]
  | cons first rest =>
    rw [oaiStreamHandler_cons]
    obtain ⟨_, accepted, follows⟩ := rel_some (first_follows estimatePromptTokens first)
    have count : (handleStreamFormat (unsent estimatePromptTokens) first).2.sendResponseCount = 1 := format_count _ _
    match rest with
    | [] =>
      have unstarted := @later_starts { usage := some usage } first rfl
      exact iff_of_false (waiting_stays unstarted) (by simp [fits])
    | [second] =>
      rw [sentFrom, foldlM_append, accepted, fits, decide_eq_true_eq]
      exact second_iff usage second count follows
    | second :: third :: rest =>
      have known : (handleStreamFormat (unsent estimatePromptTokens) first).2.convert.usage.isSome =
          first.usage.isSome := by
        rw [first_usage]
      rw [sentFrom, foldlM_append, accepted, fits, ← known]
      exact (sent_iff usage second _ (by omega) (by simp) follows).symm

/-! ## Streams that come out illegal -/

def namedFirst (seen : List Nat) : List (ToolCallResponse × Nat) → Bool
  | [] => true
  | toolCall :: rest =>
    (decide (toolCall.1.name ≠ "") == decide (toolCallOffset toolCall ∉ seen)) && namedFirst
      (toolCallOffset toolCall :: seen) rest

def toolCallsOf (chunks : List ChatCompletionsStreamResponse) : List (ToolCallResponse × Nat) :=
  chunks.flatMap fun chunk => (chunk.choices.take 1).flatMap fun choice => choice.delta.toolCalls.zipIdx

def Garbled (chunks : List ChatCompletionsStreamResponse) : Prop :=
  namedFirst [] (toolCallsOf chunks) = true ∧ ¬Legal (oaiStreamHandler 7 {} chunks)

instance (chunks : List ChatCompletionsStreamResponse) :
    Decidable (Garbled chunks) := inferInstanceAs (Decidable (_ ∧ _))

theorem streams_garbled : Garbled [finishing "x" (some {})] ∧ Garbled [saying "x", finishing "" (some {})] ∧
      Garbled [calling [⟨some 0, "a", "f", ""⟩, ⟨some 1, "b", "g", ""⟩],
        calling [⟨some 1, "", "", "2"⟩], finishing "" (some {})] ∧
      Garbled [saying "", calling [⟨some 0, "a", "f", "1"⟩], saying "x",
        calling [⟨some 1, "b", "g", "2"⟩], finishing "" (some {})] ∧
      Garbled [saying "", saying "x", finishing "" none] := by
  decide +kernel

end NewApi.Proof
