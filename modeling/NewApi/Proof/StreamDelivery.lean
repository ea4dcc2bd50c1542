import NewApi.Library.Run
import NewApi.Relay.StreamScanner

/-! # Delivery of a stream -/

namespace NewApi.Proof
open Common Library Relay StreamRun

/-! ## Lines -/

def lineData (line : String) : String := trimSpace (String.ofList (line.toList.drop 5))

def DataTerminator (line : String) : Prop := hasPrefix line "data:" = true ∧ hasPrefix (lineData line) "[DONE]" = true

def BareTerminator (line : String) : Prop := hasPrefix line "[DONE]" = true

instance (line : String) : Decidable (DataTerminator line) := inferInstanceAs (Decidable (_ ∧ _))

instance (line : String) : Decidable (BareTerminator line) := inferInstanceAs (Decidable (_ = _))

def linePayload (line : String) : Option String :=
  if hasPrefix line "data:" ∧ lineData line ≠ "" then some (lineData line) else none

def expectedPayloads (lines : List String) : List String :=
  (lines.takeWhile fun line => ¬(DataTerminator line ∨ BareTerminator line)).filterMap linePayload

theorem split_prefix {line start} (starts : hasPrefix line start = true) :
    ∃ rest, line = start ++ String.ofList rest ∧ line.toList = start.toList ++ rest := by
  obtain ⟨rest, whole⟩ := of_decide_eq_true starts
  refine ⟨rest, ?_, whole.symm⟩
  apply String.toList_inj.mp
  rw [String.toList_append, String.toList_ofList, whole]

theorem lineData_short {line} (starts : hasPrefix line "data:" = true)
    (short : line.utf8ByteSize < 6) : lineData line = "" := by
  obtain ⟨rest, rfl, whole⟩ := split_prefix starts
  have none : (String.ofList rest).utf8ByteSize = 0 := by
    rw [String.utf8ByteSize_append, show "data:".utf8ByteSize = 5 from rfl] at short
    omega
  rw [String.utf8ByteSize_eq_zero_iff] at none
  rw [lineData, whole, show ("data:".toList ++ rest).drop 5 = rest from rfl, none]
  rfl

theorem trimSpace_cons {c} (solid : isSpace c = false) (rest : List Char) :
    ∃ kept, trimSpace (String.ofList (c :: rest)) = String.ofList (c :: kept) := by
  have ends : ∃ kept, (rest.reverse ++ [c]).dropWhile isSpace = kept ++ [c] := by
    rw [List.dropWhile_append]
    split_ifs
    · exact ⟨[], by simp [solid]⟩
    · exact ⟨_, rfl⟩
  obtain ⟨kept, ends⟩ := ends
  refine ⟨kept.reverse, ?_⟩
  rw [trimSpace, String.toList_ofList, List.dropWhile_cons_of_neg (by simp [solid]), List.reverse_cons, ends]
  simp

theorem scanLine_bare {line} (bare : BareTerminator line) : ∃ data, scanLine line = .payload data := by
  obtain ⟨rest, same, whole⟩ := split_prefix bare
  have long : ¬line.utf8ByteSize < 6 := by
    rw [same, String.utf8ByteSize_append, show "[DONE]".utf8ByteSize = 6 from rfl]
    omega
  obtain ⟨kept, trimmed⟩ := trimSpace_cons (show isSpace ']' = false by decide) rest
  have data : trimSpace (String.ofList (line.toList.drop 5)) = String.ofList (']' :: kept) := by
    rw [whole, ← trimmed]
    rfl
  have present : String.ofList (']' :: kept) ≠ "" := fun none => by simpa using congrArg String.toList none
  have other : hasPrefix (String.ofList (']' :: kept)) "[DONE]" = false := by simp [hasPrefix]
  refine ⟨String.ofList (']' :: kept), ?_⟩
  rw [scanLine, if_neg long, if_neg fun neither => by simp [show hasPrefix line "[DONE]" = true from bare] at neither]
  dsimp only
  rw [data, if_neg present, other, if_neg Bool.false_ne_true]

theorem scanLine_terminator {line} (terminator : DataTerminator line) : scanLine line = .done := by
  obtain ⟨starts, ended⟩ := terminator
  have present : lineData line ≠ "" := by
    intro none
    rw [none] at ended
    exact absurd ended (by decide)
  have long : ¬line.utf8ByteSize < 6 := fun short => present (lineData_short starts short)
  rw [scanLine, if_neg long, if_neg fun neither => by simp [starts] at neither]
  rw [lineData] at present ended
  simp only [if_neg present, ended, if_true]

theorem scanLine_other {line} (data : ¬DataTerminator line) (bare : ¬BareTerminator line) :
    scanLine line = (linePayload line).elim .skipped .payload := by
  unfold scanLine linePayload
  by_cases starts : hasPrefix line "data:" = true
  · have going : hasPrefix (lineData line) "[DONE]" = false := eq_false_of_ne_true fun ended => data ⟨starts, ended⟩
    by_cases short : line.utf8ByteSize < 6
    · simp [short, lineData_short starts short]
    · unfold lineData at going ⊢
      split_ifs <;> simp_all
  · split_ifs <;> simp_all [BareTerminator]

theorem payloads_expected_iff (lines : List String) : scanLines lines = expectedPayloads lines ↔
    ∀ line ∈ lines.takeWhile fun line => ¬DataTerminator line, ¬BareTerminator line := by
  induction lines with
  | nil => simp [scanLines, expectedPayloads]
  | cons line _ ih =>
    unfold expectedPayloads at ih ⊢
    unfold scanLines
    by_cases terminator : DataTerminator line
    · simp [scanLine_terminator terminator, terminator]
    · by_cases bare : BareTerminator line
      · obtain ⟨_, scanned⟩ := scanLine_bare bare
        simp [scanned, terminator, bare]
      · rw [scanLine_other terminator bare]
        cases payload : linePayload line <;> simp_all

theorem terminator_delivered : scanLines ["data: a", "[DONE]", "data: b"] = ["a", "]", "b"] ∧
    expectedPayloads ["data: a", "[DONE]", "data: b"] = ["a"] := by
  decide

/-! ## Goroutines -/

def Smooth : StreamEvent → Prop
  | .scanner failed _ => failed = false
  | .handler proceeds => proceeds = true
  | .ping panics => panics = false
  | .main interrupted => interrupted = false

def unread (run : StreamRun) : List String :=
  match run.scanner with
  | .scanning => scanLines run.lines
  | .sending data => data :: scanLines run.lines
  | _ => []

def pipeline (run : StreamRun) : List String := run.handled ++ run.dataChan ++ unread run

def Left (run : StreamRun) : Prop := run.scanner = .stopping ∨ run.scanner = .ended

def Gone (run : StreamRun) : Prop := run.handler = .stopping ∨ run.handler = .ended

structure Calm (run : StreamRun) : Prop where
  halted : run.stopped = true ∨ run.cancelled = true → Left run
  closed : run.closed = true ↔ Left run
  drained : Gone run → run.dataChan = [] ∧ Left run
  woken : run.main ≠ .selecting ∨ run.scanner = .ended → run.stopped = true

section Steps
variable {run : StreamRun}

theorem scannerStep_frame (run : StreamRun) (failed gives : Bool) : let after := run.scannerStep failed gives
    after.handled = run.handled ∧ after.handler = run.handler ∧ after.main = run.main ∧
      after.cancelled = run.cancelled := by
  unfold scannerStep
  repeat' split
  all_goals exact ⟨rfl, rfl, rfl, rfl⟩

theorem handlerStep_frame (run : StreamRun) (proceeds : Bool) : let after := run.handlerStep proceeds
    after.lines = run.lines ∧ after.scanner = run.scanner ∧ after.main = run.main ∧
      after.handled ++ after.dataChan = run.handled ++ run.dataChan := by
  unfold handlerStep
  repeat' split
  all_goals simp_all

theorem pingStep_frame (run : StreamRun) (panics : Bool) :
    ∃ pinging stopped, run.pingStep panics = { run with pinging := pinging, stopped := stopped } := by
  unfold pingStep
  split_ifs <;> exact ⟨_, _, rfl⟩

theorem mainStep_frame (run : StreamRun) (interrupted : Bool) : ∃ cancelled stopped main,
    run.mainStep interrupted = { run with cancelled := cancelled, stopped := stopped, main := main } ∧
      (main = .returned → run.main = .returned ∨ run.scanner = .ended ∧ run.handler = .ended) := by
  unfold mainStep
  repeat' split
  all_goals exact ⟨_, _, _, rfl, by simp_all⟩

theorem pipeline_scannerStep (failed gives : Bool) : pipeline (run.scannerStep failed gives) <+: pipeline run := by
  unfold scannerStep pipeline unread
  cases scanner : run.scanner with
  | scanning =>
    cases lines : run.lines with
    | nil => cases failed <;> simp
    | cons line =>
      cases failed with
      | true => simp
      | false =>
        rw [scanLines]
        dsimp only
        split_ifs
        · simp
        · cases scanLine line <;> simp
  | sending => split_ifs <;> simp [scanner]
  | leaving | stopping | ended => simp [scanner]

theorem pipeline_step (event : StreamEvent) : pipeline (run.step event) <+: pipeline run := by
  cases event with
  | scanner failed gives => exact pipeline_scannerStep failed gives
  | handler proceeds =>
    obtain ⟨lines, scanner, -, moved⟩ := handlerStep_frame run proceeds
    simp only [step, pipeline, unread, lines, scanner, moved, List.prefix_rfl]
  | ping panics =>
    obtain ⟨_, _, same⟩ := pingStep_frame run panics
    rw [step, same]
    exact List.prefix_rfl
  | main interrupted =>
    obtain ⟨_, _, _, same, -⟩ := mainStep_frame run interrupted
    rw [step, same]
    exact List.prefix_rfl

theorem calm_step (event) (smooth : Smooth event) (calm : Calm run) :
    Calm (run.step event) ∧ pipeline (run.step event) = pipeline run := by
  obtain ⟨halted, closed, drained, woken⟩ := calm
  cases event with
  | ping panics =>
    obtain rfl : panics = false := smooth
    simp only [step, pingStep, Bool.or_false]
    split_ifs <;> exact ⟨⟨halted, closed, drained, woken⟩, rfl⟩
  | scanner | handler | main =>
    obtain rfl := smooth
    simp only [step, scannerStep, handlerStep, mainStep]
    repeat' split
    all_goals refine ⟨⟨?_, ?_, ?_, ?_⟩, ?_⟩ <;> simp_all [Left, Gone, pipeline, unread, scanLines]

def remaining (run : StreamRun) : Nat :=
  (match run.scanner with
    | .scanning => 5 * run.lines.length + 3
    | .sending _ => 5 * run.lines.length + 7
    | .leaving => 2
    | .stopping => 1
    | .ended => 0) + 2 * run.dataChan.length +
  (match run.handler with | .waiting => 2 | .handling _ => 3 | .stopping => 1 | .ended => 0) +
    (if run.pinging then 1 else 0) +
  (match run.main with | .selecting => 3 | .cleaning => 2 | .waiting => 1 | .returned => 0)

theorem remaining_handler (calm : Calm run) (busy : run.handler ≠ .ended)
    (fed : run.dataChan ≠ [] ∨ run.scanner = .ended) :
    remaining (run.step (.handler true)) < remaining run := by
  simp only [step, handlerStep]
  cases handler : run.handler with
  | waiting =>
    cases chan : run.dataChan with
    | nil =>
      have ended : run.scanner = .ended := fed.resolve_left (by simp [chan])
      simp [remaining, handler, chan, calm.closed.mpr (.inr ended)]
    | cons =>
      simp [remaining, handler, chan]
      omega
  | handling | stopping => simp [remaining, handler]
  | ended => exact absurd handler busy

theorem smooth_progress (calm : Calm run) (going : run.main ≠ .returned) :
    ∃ event, Smooth event ∧ remaining (run.step event) < remaining run := by
  cases scanner : run.scanner with
  | scanning =>
    refine ⟨.scanner false false, rfl, ?_⟩
    have alive : ¬(run.stopped = true ∨ run.cancelled = true) :=
      fun either => by simpa [Left, scanner] using calm.halted either
    cases lines : run.lines with
    | nil => simp [step, scannerStep, remaining, scanner, lines]
    | cons line =>
      simp only [step, scannerStep, scanner, lines, if_neg alive]
      cases scanLine line with
      | skipped | payload _ | done =>
        simp only [remaining, scanner, lines, List.length_cons]
        omega
  | sending =>
    by_cases room : run.dataChan.length < 10
    · refine ⟨.scanner false false, rfl, ?_⟩
      simp [step, scannerStep, remaining, scanner, room]
      omega
    · refine ⟨.handler true, rfl, remaining_handler calm (fun ended => ?_) (.inl fun none => by simp [none] at room)⟩
      simpa [Left, scanner] using (calm.drained (.inr ended)).2
  | leaving | stopping => exact ⟨.scanner false false, rfl, by simp [step, scannerStep, remaining, scanner]⟩
  | ended =>
    by_cases busy : run.handler = .ended
    · cases pinging : run.pinging with
      | true => exact ⟨.ping false, rfl, by simp [step, pingStep, remaining, pinging]⟩
      | false =>
        refine ⟨.main false, rfl, ?_⟩
        have stopped := calm.woken (.inr scanner)
        cases main : run.main <;> simp_all [step, mainStep, remaining]
    · exact ⟨.handler true, rfl, remaining_handler calm busy (.inr scanner)⟩

theorem smooth_returns (calm : Calm run) :
    ∃ later, (∀ event ∈ later, Smooth event) ∧ (Library.run step run later).main = .returned := by
  induction left : remaining run using Nat.strong_induction_on generalizing run with
  | _ _ ih =>
    by_cases ret : run.main = .returned
    · exact ⟨[], by simp, ret⟩
    · obtain ⟨event, smooth, _⟩ := smooth_progress calm ret
      obtain ⟨later, others, returns⟩ := ih _ (by omega) (calm_step event smooth calm).1 rfl
      exact ⟨event :: later, by simpa using ⟨smooth, others⟩, returns⟩

theorem gone_step (event : StreamEvent) (gone : Gone run) :
    Gone (run.step event) ∧ (run.step event).handled = run.handled := by
  cases event with
  | scanner failed gives =>
    obtain ⟨handled, handler, -⟩ := scannerStep_frame run failed gives
    exact ⟨by rwa [Gone, step, handler], handled⟩
  | handler => rcases gone with stopping | ended <;> simp_all [step, handlerStep, Gone]
  | ping panics =>
    obtain ⟨_, _, same⟩ := pingStep_frame run panics
    rw [step, same]
    exact ⟨gone, rfl⟩
  | main interrupted =>
    obtain ⟨_, _, _, same, -⟩ := mainStep_frame run interrupted
    rw [step, same]
    exact ⟨gone, rfl⟩

def EndedBefore (run : StreamRun) : Prop := run.main = .returned → run.scanner = .ended ∧ run.handler = .ended

theorem endedBefore_step (event : StreamEvent) (ended : EndedBefore run) : EndedBefore (run.step event) := by
  intro ret
  cases event with
  | scanner failed gives =>
    have both := ended ((scannerStep_frame run failed gives).2.2.1 ▸ ret)
    simp [step, scannerStep, both]
  | handler proceeds =>
    have both := ended ((handlerStep_frame run proceeds).2.2.1 ▸ ret)
    simp [step, handlerStep, both]
  | ping panics =>
    obtain ⟨_, _, same⟩ := pingStep_frame run panics
    rw [step, same] at ret ⊢
    exact ended ret
  | main interrupted =>
    obtain ⟨_, _, _, same, both⟩ := mainStep_frame run interrupted
    rw [step, same] at ret ⊢
    exact (both ret).elim ended id

end Steps

section Runs
variable (lines : List String) (pinging : Bool) (events : List StreamEvent)

abbrev streamed : StreamRun := run step { lines := lines, pinging := pinging } events

theorem streamed_ordered : (streamed lines pinging events).handled <+: scanLines lines := by
  have kept : pipeline (streamed lines pinging events) <+: scanLines lines :=
    run_preserves (fun run => pipeline run <+: scanLines lines) (fun _ event held => (pipeline_step event).trans held)
      (show pipeline _ <+: _ from List.prefix_rfl) events
  rw [pipeline, List.append_assoc] at kept
  exact (List.prefix_append _ _).trans kept

theorem streamed_calm (smooth : ∀ event ∈ events, Smooth event) :
    Calm (streamed lines pinging events) ∧ pipeline (streamed lines pinging events) = scanLines lines := by
  refine @run_invariant _ _ step (fun _ event => Smooth event) _ _
    (fun run => Calm run ∧ pipeline run = scanLines lines) ?_ ?_ ?_
  · intro run event ⟨calm, whole⟩ smooth
    obtain ⟨after, same⟩ := calm_step event smooth calm
    exact ⟨after, same.trans whole⟩
  · exact ⟨⟨by simp, by simp [Left], by simp [Gone], by simp⟩, rfl⟩
  · exact along_of_forall fun event mem _ => smooth event mem

theorem handled_fixed {run} (gone : Gone run) (later : List StreamEvent) :
    Gone (Library.run step run later) ∧ (Library.run step run later).handled = run.handled := by
  apply run_preserves (fun after => Gone after ∧ after.handled = run.handled)
  · intro after event ⟨gone, same⟩
    obtain ⟨still, kept⟩ := gone_step event gone
    exact ⟨still, kept.trans same⟩
  · exact ⟨gone, rfl⟩

end Runs

/-- The handler gets the payloads in order, and all of them if nothing interrupts the stream, which then ends. No calls
follow one that stopped it, or the return. -/
theorem stream_delivered (lines : List String) (pinging : Bool)
    (terminated : ∀ line ∈ lines.takeWhile fun line => ¬DataTerminator line, ¬BareTerminator line)
    (events : List StreamEvent) :
    let final := streamed lines pinging events
    final.handled <+: expectedPayloads lines ∧
    ((∀ event ∈ events, Smooth event) → (final.main = .returned → final.handled = expectedPayloads lines) ∧
      ∃ later, (∀ event ∈ later, Smooth event) ∧ (run step final later).main = .returned) ∧
    (Gone final → ∀ later, (run step final later).handled = final.handled) ∧
    (final.main = .returned → ∀ later, Gone (run step final later) ∧
      (run step final later).handled = final.handled) := by
  have ended : EndedBefore (streamed lines pinging events) :=
    run_preserves EndedBefore (fun _ event held => endedBefore_step event held) (fun ret => by cases ret) events
  rw [← (payloads_expected_iff lines).mpr terminated]
  refine ⟨streamed_ordered lines pinging events, fun smooth => ?_, fun gone later => (handled_fixed gone later).2,
    fun ret later => handled_fixed (.inr (ended ret).2) later⟩
  obtain ⟨calm, whole⟩ := streamed_calm lines pinging events smooth
  refine ⟨fun ret => ?_, smooth_returns calm⟩
  obtain ⟨scanner, handler⟩ := ended ret
  rw [pipeline, (calm.drained (.inr handler)).1, unread, scanner] at whole
  simpa using whole

theorem stream_delivered_plain :
    (streamed ["data: a", "data: [DONE]"] true [.scanner false false, .scanner false false,
    .handler true]).handled <+:
    expectedPayloads ["data: a", "data: [DONE]"] :=
  (stream_delivered ["data: a", "data: [DONE]"] true (by decide) _).1

theorem terminator_handled :
    (streamed ["[DONE]"] false [.scanner false false, .scanner false false,
    .handler true]).handled = ["]"] ∧
    expectedPayloads ["[DONE]"] = [] := by
  decide

/-! ## Interruptions -/

section Interrupted
variable {run : StreamRun}

structure Wired (run : StreamRun) : Prop where
  closed : Left run → run.closed = true
  stopped : run.scanner = .ended ∨ run.handler = .ended → run.stopped = true

theorem wired_step (event) (wired : Wired run) : Wired (run.step event) := by
  obtain ⟨closed, stopped⟩ := wired
  simp only [step, scannerStep, handlerStep, pingStep, mainStep]
  repeat' split
  all_goals constructor <;> simp_all [Left]

theorem wired_progress (wired : Wired run) (going : run.main ≠ .returned) :
    ∃ event, Smooth event ∧ remaining (run.step event) < remaining run := by
  obtain ⟨closed, stopped⟩ := wired
  by_cases blocked : run.handler ≠ .ended ∧ (run.scanner = .ended ∨ 10 ≤ run.dataChan.length)
  · refine ⟨.handler true, rfl, ?_⟩
    cases handler : run.handler <;> cases chan : run.dataChan <;> simp_all [step, handlerStep, remaining, Left]; omega
  · by_cases scanned : run.scanner = .ended
    · cases pinging : run.pinging with
      | true => exact ⟨.ping false, rfl, by simp [step, pingStep, remaining, pinging]⟩
      | false => exact ⟨.main false, rfl, by cases main : run.main <;> simp_all [step, mainStep, remaining]⟩
    · refine ⟨.scanner false true, rfl, ?_⟩
      -- A full channel stops the scanner only while the handler takes from it.
      simp only [step, scannerStep]
      repeat' split
      all_goals simp_all [remaining]
      all_goals omega

theorem wired_returns (wired : Wired run) : ∃ later, (∀ event ∈ later, Smooth event) ∧
    (Library.run step run later).main = .returned := by
  induction left : remaining run using Nat.strong_induction_on generalizing run with
  | _ _ ih =>
    by_cases ret : run.main = .returned
    · exact ⟨[], by simp, ret⟩
    · obtain ⟨event, smooth, _⟩ := wired_progress wired ret
      obtain ⟨later, others, returns⟩ := ih _ (by omega) (wired_step event wired) rfl
      exact ⟨event :: later, by simpa using ⟨smooth, others⟩, returns⟩

end Interrupted

/-- Whatever has failed or interrupted a stream, its goroutines can go on until it returns, without
another interruption. -/
theorem interrupted_stream_returns (lines : List String) (pinging : Bool) (events : List StreamEvent) :
    ∃ later, (∀ event ∈ later, Smooth event) ∧ (run step (streamed lines pinging events) later).main = .returned :=
  wired_returns (run_preserves Wired (fun _ => wired_step) ⟨by simp [Left], by simp⟩ events)

end NewApi.Proof
