import NewApi.Proof.RelayRun
import NewApi.Proof.TextQuota

/-! # What attempts send and write -/

namespace NewApi.Proof
open Library Relay Controller
variable {config : RelayConfig} {request : RelayRequest} {state : RelayState} {input : Selection × Attempt}

def Fails (handler : StreamHandler) (item : StreamItem) :
    Prop := ∃ data err, item = .data data ∧ handler.handle data = .failed err

def WritesOut (handler : StreamHandler) (item : StreamItem) :
    Prop := item = .ping ∨ ∃ data, item = .data data ∧ handler.handle data = .relayed true

def FailsFirst (handler : StreamHandler) (items : List StreamItem) : Prop :=
  ∀ before item after, items = before ++ item :: after → Fails handler item →
    handler.opens = false ∧ ∀ earlier ∈ before, ¬WritesOut handler earlier

def SilentFailure : Answer → Prop
  | .unsent _ => True
  | .unanswered pinged => pinged = false
  | .refused pinged _ => pinged = false
  | .answered pinged _ (.plain result) => result.toOption = none → pinged = false
  | .answered pinged _ (.stream handler items _) => (∃ item ∈ items, Fails handler item) →
      pinged = false ∧ FailsFirst handler items

variable {err : NewAPIError}

theorem handleStream_failed {handler items before after}
    (failed : handleStream handler items before = (after, some err)) :
    ∃ earlier item later, items = earlier ++ item :: later ∧ Fails handler item ∧
      (after = true → before = true ∨ ∃ item ∈ earlier, WritesOut handler item) := by
  induction items generalizing before with
  | nil => simp [handleStream] at failed
  | cons item items ih =>
    cases item with
    | ping =>
      obtain ⟨earlier, item, later, rfl, fails, -⟩ := ih failed
      exact ⟨.ping :: earlier, item, later, rfl, fails, fun _ => .inr ⟨.ping, by simp, .inl rfl⟩⟩
    | data data =>
      cases effect : handler.handle data with
      | relayed more =>
        simp only [handleStream, effect] at failed
        obtain ⟨earlier, item, later, rfl, fails, written⟩ := ih failed
        refine ⟨.data data :: earlier, item, later, rfl, fails, fun some => ?_⟩
        rcases written some with known | ⟨item, among, writes⟩
        · cases more with
          | false => exact .inl (by simpa using known)
          | true => exact .inr ⟨.data data, by simp, .inr ⟨data, rfl, effect⟩⟩
        · exact .inr ⟨item, by simp [among], writes⟩
      | stopped => simp [handleStream, effect] at failed
      | failed err' =>
        simp only [handleStream, effect, Prod.mk.injEq] at failed
        exact ⟨[], .data data, items, rfl, ⟨data, err', rfl, effect⟩, fun some => .inl (by rw [failed.1]; exact some)⟩

theorem relayed_quiet {body pinged claude written} (quiet : SilentFailure (.answered pinged claude body))
    (failed : body.relayed = (written, .error err)) : pinged = false ∧ written = false := by
  cases body with
  | plain result =>
    cases result with
    | ok => simp [ResponseBody.relayed] at failed
    | error =>
      simp only [ResponseBody.relayed, Prod.mk.injEq] at failed
      exact ⟨quiet rfl, failed.1.symm⟩
  | stream handler items =>
    rcases handled : handleStream handler items handler.opens with ⟨_, _ | _⟩
    · simp [ResponseBody.relayed, handled] at failed
    · simp only [ResponseBody.relayed, handled, Prod.mk.injEq] at failed
      obtain ⟨earlier, item, later, rfl, fails, wrote⟩ := handleStream_failed handled
      obtain ⟨unpinged, first⟩ := quiet ⟨item, by simp, fails⟩
      obtain ⟨unopened, silent⟩ := first earlier item later rfl fails
      refine ⟨unpinged, ?_⟩
      rw [← failed.1, Bool.eq_false_iff]
      intro written
      rcases wrote written with opened | ⟨item, among, writes⟩
      · rw [unopened] at opened
        contradiction
      · exact silent item among writes

theorem doRequest_quiet {attempt size ctx info} (quiet : SilentFailure attempt.answer)
    (failed : (doRequest attempt size ctx info).result = .error err) :
    (doRequest attempt size ctx info).written = false := by
  unfold doRequest at failed ⊢
  cases answer : attempt.answer with
  | unsent => rfl
  | unanswered pinged | refused pinged err =>
    rw [answer] at quiet
    exact quiet
  | answered _ _ body =>
    rw [answer] at quiet
    rcases relayed : body.relayed with ⟨_, _ | _⟩
    · obtain ⟨unpinged, silent⟩ := relayed_quiet quiet relayed
      simp [doResponse, relayed, unpinged, silent]
    · simp [answer, doResponse, relayed] at failed

def OnlyLastWrites (attempts : List AttemptLog) : Prop :=
  ∀ before log after, attempts = before ++ log :: after → log.written = true → after = []

structure OutputLast (state : RelayState) : Prop where
  earlier : OnlyLastWrites state.attempts
  going : state.outcome = none → ∀ log ∈ state.attempts, log.written = false

section Steps

abbrev chosenBody (config : RelayConfig) (request : RelayRequest) (state : RelayState) (input : Selection × Attempt) :=
  chooseBody (request.relayFormat = .claude) (billedModel request) config.passThroughRequestEnabled request input.2
    (getChannel config.env input.1 state).1.info

theorem attempted_quiet {err} (quiet : SilentFailure input.2.answer)
    (failed : (attempted config request state input).result = .error err) :
    (attempted config request state input).written = false := by
  unfold attempted relayHelper at failed ⊢
  rcases chosen : chosenBody config request state input with ⟨info, err' | size⟩
  · simp [chosen]
  · simp only [chosen] at failed ⊢
    exact doRequest_quiet quiet failed

/-- An attempt that fails has written nothing, or its error is not retried with the retries that are left. -/
def QuietRetry (config : RelayConfig) (request : RelayRequest) (state : RelayState)
    (input : Selection × Attempt) : Prop :=
  SilentFailure input.2.answer ∨ ∀ err, (attempted config request state input).result = .error err →
    shouldRetry config.policy (normalizeViolationFeeError err)
      (config.policy.retryTimes - (getChannel config.env input.1 state).1.retry) = false

theorem outputLast_step (quiet : QuietRetry config request state input) (last : OutputLast state) :
    OutputLast (relayStep config request state input) := by
  cases decided : state.outcome with
  | some =>
    rw [step_over decided]
    exact last
  | none =>
    have silent := last.going decided
    obtain ⟨_, sameAttempts⟩ := getChannel_fields config.env input.1 state
    cases selected : (getChannel config.env input.1 state).2 with
    | some =>
      rw [step_unselected decided selected]
      exact ⟨fun before log after split => last.earlier before log after
        (by rw [← sameAttempts, ← split]), fun going => by cases going⟩
    | none =>
      rw [step_attempted decided selected]
      obtain ⟨-, -, attempts⟩ := after_fields config (attempted config request state input)
        (getChannel config.env input.1 state).1
      rw [sameAttempts] at attempts
      refine ⟨fun before log after split written => ?_, fun going log among => ?_⟩
      · rw [attempts] at split
        rcases List.eq_nil_or_concat after with rfl | ⟨rest, final, rfl⟩
        · rfl
        · -- A log that is not the last one was there before.
          have regrouped : before ++ log :: rest.concat final = (before ++ log :: rest) ++ [final] := by simp
          rw [regrouped] at split
          have earlier := (List.append_inj' split rfl).1
          exact absurd written (by simp [silent log (by simp [earlier])])
      · rw [attempts, List.mem_append, List.mem_singleton] at among
        rcases among with earlier | rfl
        · exact silent log earlier
        · cases result : (attempted config request state input).result with
          | error err =>
            rcases quiet with silent | final
            · exact attempted_quiet silent result
            · rw [after_final result (final err result)] at going
              cases going
          | ok =>
            rw [after_ok result] at going
            cases going

end Steps

theorem startRelay_fresh {config request group start}
    (started : startRelay config request group = .ok start) : start.attempts = [] ∧ start.outcome = none := by
  unfold startRelay at started
  obtain ⟨⟨_, _⟩, -, rest⟩ := except_bind_ok started
  cases rest
  exact ⟨rfl, rfl⟩

theorem no_retry_after_output (config : RelayConfig) (request : RelayRequest)
    (group : Option String) (start : RelayState)
    (started : startRelay config request group = .ok start) (inputs : List (Selection × Attempt))
    (quiet : Along (relayStep config request) (QuietRetry config request) start inputs) :
    OnlyLastWrites (relay config request start inputs).attempts := by
  obtain ⟨none, -⟩ := startRelay_fresh started
  have initially : OutputLast start := ⟨by simp [OnlyLastWrites, none], by simp [none]⟩
  exact (run_invariant (fun _ _ last quiet => outputLast_step quiet last) initially quiet).earlier

def retryConfig : RelayConfig := { env := ratioEnv, policy := { retryTimes := 1 } }

def chatRequest : RelayRequest where
  relayFormat := .openai
  originModelName := "model"
  userGroup := "default"
  usingGroup := "default"
  promptTokens := 100
  bodySize := 40

def passingChannel : ChannelMeta := ⟨1, true⟩

def convertingChannel : ChannelMeta := ⟨14, false⟩

def servedBy (channel : ChannelMeta) : Selection × Attempt :=
  ({}, {
    channel := channel
    formats := [.claude]
    converted := .ok 50
    answer := .answered false false (.plain (.ok { usage := { promptTokens := 100, completionTokens := 10 } })) })

def streamedBy (items : List StreamItem) : Selection × Attempt :=
  ({}, {
    channel := convertingChannel
    formats := [.claude]
    converted := .ok 50
    answer := .answered false true (.stream .claudeStreamHandler items { usage := {} }) })

theorem retryStart_ok : ∃ start, startRelay retryConfig chatRequest none = .ok start := by
  cases started : startRelay retryConfig chatRequest none with
  | ok start => exact ⟨start, rfl⟩
  | error =>
    have ok : (startRelay retryConfig chatRequest none).isOk = true := by decide +kernel
    rw [started] at ok
    contradiction

theorem no_retry_after_output_overloaded : ∃ start, startRelay retryConfig chatRequest none = .ok start ∧
    OnlyLastWrites (relay retryConfig chatRequest start
      [streamedBy [.data (.failure "overloaded_error")], servedBy passingChannel]).attempts := by
  obtain ⟨start, started⟩ := retryStart_ok
  refine ⟨start, started, no_retry_after_output retryConfig chatRequest none start started _ ?_⟩
  refine ⟨.inl fun _ => ⟨rfl, fun before _ _ only _ => ⟨rfl, fun _ among => ?_⟩⟩,
    .inl (fun failed => nomatch failed), trivial⟩
  cases before with
  | nil => cases among
  | cons => simp at only

theorem output_before_retry : (startRelay retryConfig chatRequest none).toOption.map
    (fun start => (relay retryConfig chatRequest start
      [streamedBy [.data (.chunk true), .data (.failure "overloaded_error")],
        servedBy passingChannel]).attempts.map (·.written)) =
    some [true, true] := by
  decide +kernel

def HonestLength (sent : Option SentRequest) : Prop := ∀ request ∈ sent, 0 < request.contentLength →
    request.contentLength = request.bodyLength

def HonestLengths (attempts : List AttemptLog) : Prop := ∀ log ∈ attempts, HonestLength log.sent

def SizeKnown (config : RelayConfig) (request : RelayRequest) (state : RelayState)
    (input : Selection × Attempt) : Prop :=
  state.outcome = none → (getChannel config.env input.1 state).2 = none → input.2.rejected = none →
    (∀ err, input.2.answer ≠ .unsent err) →
  (config.passThroughRequestEnabled || input.2.channel.passThroughBodyEnabled) = true → request.relayFormat ≠ .claude →
  state.info.upstreamRequestBodySize ≤ 0 ∨ state.info.upstreamRequestBodySize = request.bodySize

section Lengths
variable {attempt : Attempt} {size : Nat} {ctx : RelayContext} {info : RelayInfo}

theorem honest_request : HonestLength (doRequest attempt size ctx info).sent ↔
    ((∀ err, attempt.answer ≠ .unsent err) → info.upstreamRequestBodySize ≤ 0 ∨
      info.upstreamRequestBodySize = size) := by
  have length : (0 < applyUpstreamContentLength info 0 → applyUpstreamContentLength info 0 = size) ↔
      info.upstreamRequestBodySize ≤ 0 ∨ info.upstreamRequestBodySize = size := by
    unfold applyUpstreamContentLength
    split_ifs <;> omega
  rw [doRequest_sent]
  cases answer : attempt.answer with
  | unsent => simp [HonestLength]
  | _ => simp [HonestLength, length]

theorem getChannel_size (env selection state) :
    (getChannel env selection state).1.info.upstreamRequestBodySize = state.info.upstreamRequestBodySize := by
  unfold getChannel
  cases known : state.info.channelMeta <;> rfl

theorem billedModel_size (info) : (billedModel request info).upstreamRequestBodySize =
    info.upstreamRequestBodySize := by
  unfold billedModel
  split_ifs <;> rfl

theorem honest_attempted (going : state.outcome = none) (selected : (getChannel config.env input.1 state).2 = none) :
    HonestLength (attempted config request state input).sent ↔ SizeKnown config request state input := by
  unfold attempted relayHelper chooseBody SizeKnown
  cases rejected : input.2.rejected with
  | some => simp [HonestLength]
  | none =>
    by_cases passing : (config.passThroughRequestEnabled || input.2.channel.passThroughBodyEnabled) = true
    · by_cases claude : request.relayFormat = .claude
      · simp only [passing, claude, if_true, decide_true, honest_request]
        simp
      · simp only [passing, claude, if_true, decide_false, Bool.false_eq_true, if_false,
          honest_request, billedModel_size, getChannel_size]
        simp [going, selected, claude]
    · simp only [passing]
      cases input.2.converted with
      | error => simp [HonestLength]
      | ok => simp [honest_request]

theorem honest_step : HonestLengths (relayStep config request state input).attempts ↔
    HonestLengths state.attempts ∧ SizeKnown config request state input := by
  cases decided : state.outcome with
  | some =>
    rw [step_over decided]
    simp [SizeKnown, decided]
  | none =>
    obtain ⟨-, sameAttempts⟩ := getChannel_fields config.env input.1 state
    cases selected : (getChannel config.env input.1 state).2 with
    | some =>
      rw [step_unselected decided selected]
      simp [SizeKnown, selected, sameAttempts]
    | none =>
      obtain ⟨-, -, attempts⟩ := after_fields config (attempted config request state input)
        (getChannel config.env input.1 state).1
      rw [step_attempted decided selected, attempts, sameAttempts, ← honest_attempted decided selected]
      simp [HonestLengths, or_imp, forall_and]

end Lengths

theorem content_length_honest (config : RelayConfig) (request : RelayRequest)
    (group : Option String) (start : RelayState)
    (started : startRelay config request group = .ok start) (inputs : List (Selection × Attempt)) :
    HonestLengths (relay config request start inputs).attempts ↔
      Along (relayStep config request) (SizeKnown config request) start inputs := by
  have every (state : RelayState) : HonestLengths (relay config request state inputs).attempts ↔
      HonestLengths state.attempts ∧ Along (relayStep config request) (SizeKnown config request) state inputs := by
    induction inputs generalizing state with
    | nil => simp [relay, run, Along]
    | cons _ _ ih =>
      rw [relay, run, ← relay, ih, honest_step, and_assoc]
      rfl
  rw [every, (startRelay_fresh started).1]
  simp [HonestLengths]

theorem content_length_honest_converted : ∃ start, startRelay retryConfig chatRequest none = .ok start ∧
    HonestLengths
      (relay retryConfig chatRequest start [streamedBy [.data (.failure "overloaded_error")],
      servedBy convertingChannel]).attempts := by
  obtain ⟨start, started⟩ := retryStart_ok
  refine ⟨start, started, (content_length_honest retryConfig chatRequest none start started _).mpr ⟨?_, ?_, trivial⟩⟩
  · intro _ _ _ _ passing
    cases passing
  · intro _ _ _ _ passing
    cases passing

theorem content_length_stale : (startRelay retryConfig chatRequest none).toOption.map
    (fun start => (relay retryConfig chatRequest start
      [streamedBy [.data (.failure "overloaded_error")], servedBy passingChannel]).attempts.map (·.sent)) =
    some [some ⟨50, 50⟩, some ⟨50, 40⟩] := by
  decide +kernel

end NewApi.Proof
