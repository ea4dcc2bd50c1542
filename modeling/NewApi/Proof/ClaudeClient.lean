import NewApi.Relay.ChatToClaude
import NewApi.Library.Lockstep

/-! # Clients of a Claude stream -/

namespace NewApi.Proof
open Relay Library ClaudeConvertInfo List Option Prod

/-! ## The client -/

inductive BlockType where
  | text | thinking | toolUse
deriving DecidableEq

def blockType : ContentBlock → BlockType
  | .text => .text
  | .thinking => .thinking
  | .toolUse .. => .toolUse

def deltaType : ContentDelta → BlockType
  | .textDelta _ => .text
  | .thinkingDelta _ => .thinking
  | .inputJsonDelta _ => .toolUse

inductive Client where
  | waiting
  | reading (opened : List (Nat × BlockType)) (stopped : List Nat)
  | ended
deriving DecidableEq

def Client.accept : Client → ClaudeStreamEvent → Option Client
  | .waiting, .messageStart .. => some (.reading [] [])
  | .reading opened stopped, .contentBlockStart index block =>
    if index ∈ opened.map fst ∨ index ∈ stopped then none else some
      (.reading ((index, blockType block) :: opened) stopped)
  | .reading opened stopped, .contentBlockDelta index delta =>
    if (index, deltaType delta) ∈ opened then some (.reading opened stopped) else none
  | .reading opened stopped, .contentBlockStop index =>
    if index ∈ opened.map fst then some (.reading (opened.filter fun block => block.1 ≠ index)
      (index :: stopped)) else none
  | .reading opened stopped, .messageDelta .. => some (.reading opened stopped)
  | .reading [] _, .messageStop => some .ended
  | _, _ => none

def Legal (events : List ClaudeStreamEvent) : Prop := events.foldlM Client.accept .waiting = some .ended

instance (events : List ClaudeStreamEvent) : Decidable (Legal events) := inferInstanceAs (Decidable (_ = _))

/-! ## The scan of the chunks -/

structure ToolRun where
  opened : List Nat := []
  last : Nat := 0
deriving DecidableEq

namespace ToolRun

def call (run : ToolRun) (toolCall : ToolCallResponse × Nat) : Option ToolRun :=
  let offset := toolCallOffset toolCall
  let opened := if toolCall.1.name ≠ "" then offset :: run.opened else run.opened
  if toolCall.1.name ≠ "" ∧ offset ∈ run.opened ∨ toolCall.1.arguments ≠ "" ∧ offset ∉ opened then none
  else some ⟨opened, max run.last offset⟩

def complete (run : ToolRun) : Bool := (range (run.last + 1)).all fun offset => offset ∈ run.opened

end ToolRun

def leave (run : Option ToolRun) : Option (Option ToolRun) := if run.all ToolRun.complete then some none else none

variable (delta : ChatCompletionsStreamResponseChoiceDelta)

def scanDelta (run : Option ToolRun) : Option (Option ToolRun) :=
  if delta.toolCalls ≠ [] then (delta.toolCalls.zipIdx.foldlM ToolRun.call (run.getD {})).map some
  else if delta.getReasoningContent ≠ "" ∨ delta.getContentString ≠ "" then leave run
  else some run

inductive Seen where
  | ongoing (run : Option ToolRun)
  | closed
deriving DecidableEq

def scanChunk (known : Bool) (chunk : ChatCompletionsStreamResponse) (run : Option ToolRun) : Option Seen :=
  match chunk.choices with
  | [] => if known then (leave run).map fun _ => .closed else some (.ongoing run)
  | choice :: _ =>
    if choice.isFinished && chunk.usage.isNone then some (.ongoing run)
    else (scanDelta choice.delta run).bind fun run =>
      if choice.isFinished then (leave run).map fun _ => .closed else some (.ongoing run)

def Seen.next (known : Bool) (chunk : ChatCompletionsStreamResponse) : Seen → Option Seen
  | .ongoing run => scanChunk known chunk run
  | .closed => some .closed

def firstRun : Option ToolRun := if delta.toolCalls ≠ [] then some ⟨[0], 0⟩ else none

def afterFirst : Option ToolRun :=
  if delta.getReasoningContent ≠ "" ∨ delta.getContentString ≠ "" then none else firstRun delta

def scanFirst (chunk : ChatCompletionsStreamResponse) : Seen :=
  match chunk.choices with
  | [] => .ongoing none
  | choice :: _ => if choice.isFinished then .closed else .ongoing (afterFirst choice.delta)

def fitsFrom (known : Bool) (seen : Seen) (held : ChatCompletionsStreamResponse) :
    List ChatCompletionsStreamResponse → Bool
  | [] => seen.next true held = some .closed
  | next :: rest =>
    (seen.next (known || held.usage.isSome) held).any fun seen => fitsFrom (known || held.usage.isSome) seen next rest

def fits : List ChatCompletionsStreamResponse → Bool
  | [] => false
  | [_] => false
  | [first, _] => scanFirst first = .closed
  | first :: second :: third :: rest => fitsFrom first.usage.isSome (scanFirst first) second (third :: rest)

/-! ## Client and scan in lockstep -/

def plainType : LastMessageType → Option BlockType
  | .text => some .text
  | .thinking => some .thinking
  | _ => none

inductive Tracks (info : ClaudeConvertInfo) : Option ToolRun → Client → Prop
  | idle {stopped} (type : info.lastMessagesType = .none) (fresh : ∀ index ∈ stopped, index < info.index) :
      Tracks info none (.reading [] stopped)
  | block {kind stopped} (type : plainType info.lastMessagesType = some kind)
      (fresh : ∀ index ∈ stopped, index < info.index) : Tracks info none (.reading [(info.index, kind)] stopped)
  | tools {run stopped} (type : info.lastMessagesType = .tools) (last : run.last = info.toolCallMaxIndexOffset)
      (within : ∀ offset ∈ run.opened, offset ≤ run.last) (fresh : ∀ index ∈ stopped, index < info.toolCallBaseIndex) :
      Tracks info (some run) (.reading (run.opened.map fun offset =>
        (info.toolCallBaseIndex + offset, .toolUse)) stopped)

theorem stops_range (base count : Nat) (opened : List (Nat × BlockType)) (stopped : List Nat) :
    ((range count).map fun offset => ClaudeStreamEvent.contentBlockStop (base + offset)).foldlM
      Client.accept (.reading opened stopped) =
      if ∀ offset < count, base + offset ∈ opened.map fst then
        some (.reading (opened.filter fun block => block.1 < base ∨ base + count ≤ block.1)
          (((range count).map (base + ·)).reverse ++ stopped))
      else none := by
  induction count with
  | zero =>
    have all : opened.filter (fun block => block.1 < base ∨ base + 0 ≤ block.1) = opened := by
      apply filter_eq_self.mpr
      intro block _
      exact decide_eq_true (by omega)
    rw [all]
    simp
  | succ count ih =>
    have kept : base + count ∈ (opened.filter fun block => block.1 < base ∨ base + count ≤ block.1).map fst ↔
        base + count ∈ opened.map fst := by
      simp
    rw [range_succ, map_append, foldlM_append, ih]
    by_cases before : ∀ offset < count, base + offset ∈ opened.map fst
    · rw [if_pos before]
      by_cases here : base + count ∈ opened.map fst
      · have every : ∀ offset < count + 1, base + offset ∈ opened.map fst := by
          intro offset bound
          rcases Nat.lt_succ_iff_lt_or_eq.mp bound with less | same
          · exact before offset less
          · rw [same]
            exact here
        have filtered : (opened.filter fun block => block.1 < base ∨ base + count ≤ block.1).filter
          (fun block => block.1 ≠ base + count) =
            opened.filter fun block => block.1 < base ∨ base + (count + 1) ≤ block.1 := by
          rw [List.filter_filter]
          apply filter_congr
          intro _ _
          rw [← Bool.decide_and, decide_eq_decide]
          omega
        rw [if_pos every, ← filtered]
        simp only [map_cons, map_nil, bind_eq_bind, bind_some, foldlM_cons, foldlM_nil,
          Client.accept, if_pos (kept.mpr here)]
        simp
      · have missing : ¬∀ offset < count + 1, base + offset ∈ opened.map fst := fun every =>
          here (every count (by omega))
        rw [if_neg missing]
        simp only [map_cons, map_nil, bind_eq_bind, bind_some, foldlM_cons, foldlM_nil,
          Client.accept, if_neg (kept.not.mpr here), bind_none]
    · have missing : ¬∀ offset < count + 1, base + offset ∈ opened.map fst :=
        fun every => before fun offset _ => every offset (by omega)
      rw [if_neg before, if_neg missing]
      rfl

variable {info : ClaudeConvertInfo} {client : Client} {block : ContentBlock} {delta : ContentDelta}
    {again : Bool} {base offset : Nat}

theorem plain_stops {kind} (type : plainType info.lastMessagesType = some kind) :
    info.stopOpenBlocks = [.contentBlockStop info.index] ∧
      info.advance = { info with index := info.index + 1, lastMessagesType := .none } := by
  simp only [ClaudeConvertInfo.stopOpenBlocks, ClaudeConvertInfo.advance]
  cases same : info.lastMessagesType with
  | text => exact ⟨rfl, rfl⟩
  | thinking => exact ⟨rfl, rfl⟩
  | none => simp [same, plainType] at type
  | tools => simp [same, plainType] at type

theorem leave_lockstep {run} (tracks : Tracks info run client) :
    Option.Rel (Tracks info.advance) (leave run) (info.stopOpenBlocks.foldlM Client.accept client) := by
  cases tracks with
  | idle type fresh =>
    simp only [advance, stopOpenBlocks, type, leave, all_none, if_true]
    exact .some (.idle type fresh)
  | @block kind stopped type fresh =>
    obtain ⟨stops, advanced⟩ := plain_stops type
    have accepted : (Client.reading [(info.index, kind)] stopped).accept (.contentBlockStop info.index) =
        some (.reading [] (info.index :: stopped)) := by
      simp [Client.accept]
    rw [stops, advanced, foldlM_cons, accepted]
    refine .some (.idle rfl ?_)
    intro index mem
    rcases mem_cons.mp mem with same | old
    · rw [same]
      exact Nat.lt_succ_self _
    · exact Nat.lt_succ_of_lt (fresh index old)
  | @tools run stopped type last within fresh =>
    have everywhere : (∀ offset < run.last + 1, info.toolCallBaseIndex + offset ∈
        (run.opened.map fun offset => (info.toolCallBaseIndex + offset, BlockType.toolUse)).map
          fst) ↔ run.complete = true := by
      simp [ToolRun.complete]
    have stops : info.stopOpenBlocks =
        (range (run.last + 1)).map fun offset => .contentBlockStop (info.toolCallBaseIndex + offset) := by
      simp only [stopOpenBlocks, type, last]
    rw [stops, stops_range]
    by_cases complete : run.complete = true
    · -- every open block is in the range that is stopped
      have none_left : (run.opened.map fun offset => (info.toolCallBaseIndex + offset, BlockType.toolUse)).filter
          (fun block => block.1 < info.toolCallBaseIndex ∨ info.toolCallBaseIndex + (run.last + 1) ≤ block.1) = [] := by
        apply filter_eq_nil_iff.mpr
        intro _ mem
        obtain ⟨offset, opened, rfl⟩ := mem_map.mp mem
        have := within offset opened
        simp only [decide_eq_true_eq]
        omega
      rw [if_pos (everywhere.mpr complete), none_left]
      simp only [leave, all_some, complete, if_true, advance, type]
      refine .some (.idle rfl ?_)
      intro index mem
      show index < info.toolCallBaseIndex + info.toolCallMaxIndexOffset + 1
      rw [List.mem_append, List.mem_reverse, List.mem_map] at mem
      rcases mem with ⟨offset, bound, rfl⟩ | old
      · have := mem_range.mp bound
        omega
      · have := fresh index old
        omega
    · rw [if_neg (everywhere.not.mpr complete)]
      simp only [leave, all_some, if_neg complete]
      exact .none

theorem Tracks.opened_nil {run} (tracks : Tracks info.advance run client) :
    run = none ∧ ∃ stopped, client = .reading [] stopped ∧ ∀ index ∈ stopped, index < info.advance.index := by
  have none : info.advance.lastMessagesType = .none := by
    unfold advance
    split <;> simp_all
  cases tracks with
  | idle _ fresh => exact ⟨rfl, _, rfl, fresh⟩
  | block type => simp [none, plainType] at type
  | tools type => simp [none] at type

theorem Tracks.with_reason {info run} (tracks : Tracks info run client)
    (usage) (reason : String) : Tracks { info with usage := usage, finishReason := reason } run client := by
  cases tracks with
  | idle type fresh => exact .idle type fresh
  | block type fresh => exact .block type fresh
  | tools type last within fresh => exact .tools type last within fresh

theorem Tracks.started {after run} (tracks : Tracks info.advance run client)
    (matching : blockType block = deltaType delta)
    (index : after.index = info.advance.index) (type : plainType after.lastMessagesType = some (deltaType delta)) :
    Option.Rel (Tracks after) (some run)
      ([ClaudeStreamEvent.contentBlockStart info.advance.index block,
        .contentBlockDelta info.advance.index delta].foldlM
        Client.accept client) := by
  obtain ⟨rfl, stopped, rfl, fresh⟩ := tracks.opened_nil
  have new : ¬(info.advance.index ∈ ([] : List (Nat × BlockType)).map fst ∨ info.advance.index ∈ stopped) := by
    rintro (opened | old)
    · cases opened
    · exact Nat.lt_irrefl _ (fresh _ old)
  rw [foldlM_cons, Client.accept, if_neg new]
  rw [← index] at fresh ⊢
  have filled : ([ClaudeStreamEvent.contentBlockDelta after.index delta]).foldlM Client.accept
      (.reading [(after.index, deltaType delta)] stopped) =
        some (.reading [(after.index, deltaType delta)] stopped) := by
    simp [Client.accept]
  rw [matching]
  show Option.Rel _ _ (([ClaudeStreamEvent.contentBlockDelta after.index delta]).foldlM Client.accept
    (.reading [(after.index, deltaType delta)] stopped))
  rw [filled]
  exact .some (.block type fresh)

theorem content_lockstep {run type} (tracks : Tracks info run client)
    (plain : plainType type = some (deltaType delta)) (matching : blockType block = deltaType delta)
    (once : again = true → info.lastMessagesType ≠ type) :
    Option.Rel (Tracks (contentEvents type block delta again info).2) (leave run)
      ((contentEvents type block delta again info).1.foldlM Client.accept client) := by
  unfold contentEvents
  by_cases same : info.lastMessagesType = type
  · have single : again = false := by
      cases again with
      | false => rfl
      | true => exact absurd same (once rfl)
    simp only [if_pos same, single]
    cases tracks with
    | idle none => simp [← same, none, plainType] at plain
    | tools tools => simp [← same, tools, plainType] at plain
    | @block _ stopped known fresh =>
      rw [same, plain] at known
      cases known
      have filled : ([ClaudeStreamEvent.contentBlockDelta info.index delta]).foldlM Client.accept
          (.reading [(info.index, deltaType delta)] stopped) =
            some (.reading [(info.index, deltaType delta)] stopped) := by
        simp [Client.accept]
      simp only [Bool.false_eq_true, if_false, nil_append, filled]
      exact .some (.block (by rw [same, plain]) fresh)
  · simp only [if_neg same, stopOpenBlocksAndAdvance, foldlM_append]
    rw [← bind_fun_some (leave run)]
    apply rel_bind (leave_lockstep tracks)
    intro _ _ advanced
    exact advanced.started matching rfl plain

theorem text_lockstep {info run} (delta) (tracks : Tracks info run client)
    (once : again = true → plainType info.lastMessagesType = none) : Option.Rel (Tracks (textEvents again delta info).2)
      (if delta.getReasoningContent ≠ "" ∨ delta.getContentString ≠ "" then leave run else some run)
      ((textEvents again delta info).1.foldlM Client.accept client) := by
  have other : ∀ type kind, plainType type = some kind → again = true → info.lastMessagesType ≠ type := by
    intro _ _ plain first same
    rw [← same, once first] at plain
    cases plain
  unfold textEvents
  by_cases reasoning : delta.getReasoningContent ≠ ""
  · simp only [if_pos reasoning, if_pos (Or.inl reasoning)]
    exact content_lockstep tracks rfl rfl (other .thinking _ rfl)
  · by_cases content : delta.getContentString ≠ ""
    · simp only [if_neg reasoning, if_pos content, if_pos (Or.inr content)]
      exact content_lockstep tracks rfl rfl (other .text _ rfl)
    · simp only [if_neg reasoning, if_neg content, if_neg (not_or.mpr ⟨reasoning, content⟩)]
      exact .some tracks

/-! ## Tool calls -/

inductive Holds (base : Nat) : ToolRun → Client → Prop
  | intro {run stopped} (within : ∀ offset ∈ run.opened, offset ≤ run.last) (fresh : ∀ index ∈ stopped, index < base) :
      Holds base run (.reading (run.opened.map fun offset => (base + offset, .toolUse)) stopped)

theorem Holds.start {run} (holds : Holds base run client) (block) (tool : blockType block = .toolUse) :
    Option.Rel (Holds base) (if offset ∈ run.opened then none else some ⟨offset :: run.opened, max run.last offset⟩)
      (client.accept (.contentBlockStart (base + offset) block)) := by
  cases holds with
  | @intro stopped within fresh =>
    have unstopped : base + offset ∉ stopped := by
      intro mem
      have := fresh _ mem
      omega
    have known : (base + offset ∈ (run.opened.map fun offset => (base + offset, BlockType.toolUse)).map fst ∨
        base + offset ∈ stopped) ↔ offset ∈ run.opened := by
      simp [unstopped]
    simp only [Client.accept, known]
    by_cases opened : offset ∈ run.opened
    · simp only [if_pos opened]
      exact .none
    · simp only [if_neg opened, tool]
      refine .some (@Holds.intro base ⟨offset :: run.opened, max run.last offset⟩ stopped ?_ fresh)
      intro other mem
      rcases mem_cons.mp mem with same | old
      · rw [same]
        exact Nat.le_max_right _ _
      · exact (within other old).trans (Nat.le_max_left _ _)

theorem Holds.fill {run} (holds : Holds base run client) (arguments : String) :
    Option.Rel (Holds base) (if offset ∈ run.opened then some run else none)
      (client.accept (.contentBlockDelta (base + offset) (.inputJsonDelta arguments))) := by
  cases holds with
  | intro within fresh =>
    have known : (base + offset, BlockType.toolUse) ∈ (run.opened.map fun offset =>
      (base + offset, BlockType.toolUse)) ↔
        offset ∈ run.opened := by
      simp
    simp only [Client.accept, deltaType, known]
    by_cases opened : offset ∈ run.opened
    · simp only [if_pos opened]
      exact .some (.intro within fresh)
    · simp only [if_neg opened]
      exact .none

theorem Holds.widen {run} (holds : Holds base run client) : Holds base ⟨run.opened, max run.last offset⟩ client := by
  cases holds with
  | intro within fresh => exact .intro (fun other mem => (within other mem).trans (Nat.le_max_left _ _)) fresh

theorem call_eq (run : ToolRun) (toolCall : ToolCallResponse × Nat) : run.call toolCall = ((if toolCall.1.name ≠ "" then
          if toolCallOffset toolCall ∈ run.opened then none
          else some ⟨toolCallOffset toolCall :: run.opened, max run.last (toolCallOffset toolCall)⟩
        else some ⟨run.opened, max run.last (toolCallOffset toolCall)⟩ : Option ToolRun).bind fun run =>
        if toolCall.1.arguments ≠ "" then if toolCallOffset toolCall ∈
          run.opened then some run else none else some run) := by
  unfold ToolRun.call
  by_cases name : toolCall.1.name = ""
  · by_cases arguments : toolCall.1.arguments = "" <;> by_cases opened : toolCallOffset toolCall ∈ run.opened <;>
      simp [name, arguments, opened]
  · by_cases opened : toolCallOffset toolCall ∈ run.opened <;> simp [name, opened]

theorem call_lockstep (run : ToolRun) (client : Client) (toolCall : ToolCallResponse × Nat)
    (holds : Holds base run client) :
    Option.Rel (Holds base) (run.call toolCall) ((toolCallEvents base toolCall).foldlM Client.accept client) := by
  rw [call_eq]
  unfold toolCallEvents
  rw [foldlM_append]
  apply @rel_bind _ _ _ _ (Holds base)
  · by_cases name : toolCall.1.name ≠ ""
    · simp only [if_pos name, foldlM_cons, foldlM_nil, bind_pure]
      exact holds.start _ rfl
    · simp only [if_neg name]
      exact .some holds.widen
  · intro _ _ holds
    by_cases arguments : toolCall.1.arguments ≠ ""
    · simp only [if_pos arguments, foldlM_cons, foldlM_nil, bind_pure]
      exact holds.fill _
    · simp only [if_neg arguments]
      exact .some holds

theorem calls_last {run after : ToolRun} {toolCalls : List (ToolCallResponse × Nat)}
    (called : toolCalls.foldlM ToolRun.call run = some after) :
    after.last = (toolCalls.map toolCallOffset).foldl max run.last := by
  induction toolCalls generalizing run with
  | nil => exact congrArg ToolRun.last (some.inj called).symm
  | cons toolCall _ ih =>
    rw [foldlM_cons] at called
    obtain ⟨next, step, called⟩ := bind_eq_some_iff.mp called
    have last : next.last = max run.last (toolCallOffset toolCall) := by
      unfold ToolRun.call at step
      rw [ite_none_left_eq_some] at step
      exact congrArg ToolRun.last (some.inj step.2).symm
    rw [ih called, last]
    rfl

theorem Holds.tracks {info run} (holds : Holds info.toolCallBaseIndex run client)
    (type : info.lastMessagesType = .tools) (last : run.last = info.toolCallMaxIndexOffset) : Tracks info (some run) client := by
  cases holds with
  | intro within fresh => exact .tools type last within fresh

theorem calls_lockstep {after : ClaudeConvertInfo} {run : ToolRun} (toolCalls : List ToolCallResponse)
    (holds : Holds after.toolCallBaseIndex run client) (type : after.lastMessagesType = .tools)
    (last : after.toolCallMaxIndexOffset = (toolCalls.zipIdx.map toolCallOffset).foldl max run.last) :
    Option.Rel (Tracks after) ((toolCalls.zipIdx.foldlM ToolRun.call run).map some)
      ((toolCalls.zipIdx.flatMap (toolCallEvents after.toolCallBaseIndex)).foldlM Client.accept client) := by
  apply rel_map (rel_foldlM call_lockstep holds _)
  intro _ _ called holds
  exact holds.tracks type ((calls_last called).trans last.symm)

theorem tools_lockstep {run} (toolCalls : List ToolCallResponse) (tracks : Tracks info run client) :
    Option.Rel (Tracks (toolEvents toolCalls info).2) ((toolCalls.zipIdx.foldlM ToolRun.call (run.getD {})).map some)
      ((toolEvents toolCalls info).1.foldlM Client.accept client) := by
  by_cases type : info.lastMessagesType = .tools
  · simp only [toolEvents, if_pos type, nil_append]
    cases tracks with
    | idle none => simp [type] at none
    | block plain => simp [type, plainType] at plain
    | @tools _ _ _ last within fresh => exact calls_lockstep toolCalls (.intro within fresh) rfl (by rw [getD_some, last])
  · simp only [toolEvents, if_neg type, stopOpenBlocksAndAdvance, foldlM_append]
    have alone : run = none := by
      cases tracks with
      | idle => rfl
      | block => rfl
      | tools tools => exact absurd tools type
    subst alone
    have left : (leave none).bind (fun _ => (toolCalls.zipIdx.foldlM ToolRun.call {}).map some) =
        (toolCalls.zipIdx.foldlM ToolRun.call {}).map some := rfl
    rw [getD_none, ← left]
    apply rel_bind (leave_lockstep tracks)
    intro _ _ advanced
    obtain ⟨_, _, rfl, fresh⟩ := advanced.opened_nil
    exact calls_lockstep toolCalls (@Holds.intro _ {} _ (by simp) fresh) rfl rfl

end NewApi.Proof
