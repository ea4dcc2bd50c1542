import NewApi.Controller.Relay

/-! # Steps of the retry loop -/

namespace NewApi.Proof
open Library Relay Controller

def billedModel (request : RelayRequest) (info : RelayInfo) : RelayInfo :=
  if request.relayFormat = .gemini then { info with originModelName := noThinkingModelName request info.originModelName } else info

theorem relayHandler_eq (passThrough : Bool) (request attempt) (ctx : RelayContext) (info) :
    relayHandler passThrough request attempt ctx info =
      relayHelper (request.relayFormat = .claude) (billedModel request) passThrough request attempt ctx info := by
  cases format : request.relayFormat <;>
    simp [relayHandler, format, textHelper, responsesHelper, claudeHelper, geminiHelper,
      relayHelper, chooseBody, billedModel]

def answeredInfo (claude : Bool) (info : RelayInfo) : RelayInfo :=
  if claude then { info with finalRequestRelayFormat := some .claude } else info

def replyOf (attempt : Attempt) : Option (Bool × Reply) :=
  match attempt.answer with
  | .answered _ claude body => body.relayed.2.toOption.map fun reply => (claude, reply)
  | _ => none

section Attempts
variable {attempt : Attempt} {request : RelayRequest} {size : Nat} {ctx : RelayContext}
    {info : RelayInfo} {passThrough stores : Bool}
  {rename : RelayInfo → RelayInfo} {usage : Usage} {err : NewAPIError}

theorem doRequest_sent : (doRequest attempt size ctx info).sent =
    match attempt.answer with
    | .unsent _ => none
    | _ => some ⟨applyUpstreamContentLength info 0, size⟩ := by
  unfold doRequest
  cases attempt.answer with
  | answered _ _ body => rcases relayed : body.relayed with ⟨written, err | reply⟩ <;> simp [doResponse, relayed]
  | _ => rfl

theorem doRequest_ok : (doRequest attempt size ctx info).result = .ok usage ↔
    ∃ claude reply, replyOf attempt = some (claude, reply) ∧ reply.usage = usage := by
  unfold doRequest replyOf
  cases attempt.answer with
  | answered _ _ body => rcases relayed : body.relayed with ⟨written, err | reply⟩ <;>
      simp [doResponse, relayed, Except.toOption]
  | _ => simp

theorem doRequest_reply {claude reply} (replied : replyOf attempt = some (claude, reply)) :
    (doRequest attempt size ctx info).ctx = (applyReply reply ctx info).1 ∧
    (doRequest attempt size ctx info).info = (applyReply reply ctx (answeredInfo claude info)).2 := by
  unfold doRequest
  unfold replyOf at replied
  cases answer : attempt.answer with
  | answered _ _ body =>
    rcases relayed : body.relayed with ⟨_, _ | _⟩
    · simp [answer, relayed, Except.toOption] at replied
    · simp only [answer, relayed, Except.toOption, Option.map_some, Option.some.injEq, Prod.mk.injEq] at replied
      obtain ⟨rfl, rfl⟩ := replied
      simp [doResponse, relayed, applyReply, answeredInfo]
  | _ => simp [answer] at replied

theorem doRequest_error (failed : (doRequest attempt size ctx info).result = .error err) :
    (doRequest attempt size ctx info).ctx = ctx ∧ ∃ claude, (doRequest attempt size ctx info).info =
      answeredInfo claude info := by
  unfold doRequest at failed ⊢
  cases answer : attempt.answer with
  | answered _ claude body =>
    rcases relayed : body.relayed with ⟨_, _ | _⟩
    · exact ⟨by simp [doResponse, relayed], claude, by simp [doResponse, relayed, answeredInfo]⟩
    · simp [answer, doResponse, relayed] at failed
  | _ => exact ⟨rfl, false, rfl⟩

end Attempts

section Loop
variable {config : RelayConfig} {request : RelayRequest} {state : RelayState} {input : Selection × Attempt}

theorem step_over {outcome} (decided : state.outcome = some outcome) :
    relayStep config request state input = state := by
  simp [relayStep, decided]

theorem step_unselected {err} (going : state.outcome = none) (failed : (getChannel config.env input.1 state).2 = some err) :
    relayStep config request state input = { (getChannel config.env input.1 state).1 with outcome := some (.error err) } := by
  rcases selected : getChannel config.env input.1 state with ⟨_, _⟩
  rw [selected] at failed
  subst failed
  simp [relayStep, going, selected]

def attempted (config : RelayConfig) (request : RelayRequest) (state : RelayState)
    (input : Selection × Attempt) : Attempted :=
  let served := (getChannel config.env input.1 state).1
  relayHelper (request.relayFormat = .claude) (billedModel request) config.passThroughRequestEnabled
    request input.2 served.ctx served.info

theorem step_attempted (going : state.outcome = none) (selected : (getChannel config.env input.1 state).2 = none) :
    relayStep config request state input =
      afterAttempt config (attempted config request state input) (getChannel config.env input.1 state).1 := by
  rcases channel : getChannel config.env input.1 state with ⟨_, _⟩
  rw [channel] at selected
  subst selected
  simp [relayStep, going, channel, relayHandler_eq, attempted]

theorem after_fields (config) (done : Attempted) (state) :
    (afterAttempt config done state).ctx = done.ctx ∧ (afterAttempt config done state).info = done.info ∧
    (afterAttempt config done state).attempts = state.attempts ++ [⟨done.sent, done.written⟩] := by
  unfold afterAttempt increaseRetry
  cases done.result with
  | ok => exact ⟨rfl, rfl, rfl⟩
  | error =>
    dsimp only
    split_ifs <;> exact ⟨rfl, rfl, rfl⟩

theorem after_ok {done usage} (ok : done.result = .ok usage) :
    (afterAttempt config done state).outcome =
      some (.ok (postTextConsumeQuota config.env done.ctx done.info (some usage))) := by
  simp [afterAttempt, ok]

theorem after_final {done err} (failed : done.result = .error err)
    (final : shouldRetry config.policy (normalizeViolationFeeError err)
    (config.policy.retryTimes - state.retry) = false) :
    (afterAttempt config done state).outcome = some (.error (normalizeViolationFeeError err)) := by
  simp [afterAttempt, failed, final]

theorem after_error {done err} (going : state.outcome = none) (failed : done.result = .error err) :
    (afterAttempt config done state).outcome = none ∨ ∃ last,
      (afterAttempt config done state).outcome = some (.error last) := by
  unfold afterAttempt increaseRetry
  rw [failed]
  dsimp only
  split_ifs
  · exact .inl going
  · exact .inl going
  · exact .inr ⟨_, rfl⟩
  · exact .inr ⟨_, rfl⟩

theorem getChannel_fields (env selection state) :
    (getChannel env selection state).1.outcome = state.outcome ∧
      (getChannel env selection state).1.attempts = state.attempts := by
  unfold getChannel
  cases state.info.channelMeta <;> exact ⟨rfl, rfl⟩

end Loop

end NewApi.Proof
