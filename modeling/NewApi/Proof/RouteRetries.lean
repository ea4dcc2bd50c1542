import NewApi.Controller.RelayRoute

/-! # How long the retry loop goes on -/

namespace NewApi.Proof
open Library Model Relay Service Controller RetryParam

def priorityRetry (start retry index : Nat) : Nat := if start < index then 0 else retry

structure Chosen (settings : SelectSettings) (pick : String → Nat → Except String (Option Channel))
    (groups : List String) (start : Nat)
    (ctx : AutoContext) (param : RetryParam) (index : Nat) (channel : Channel) (selected : SelectedChannel) : Prop where
  picked : ∃ group, groups[index]? = some group ∧
    (pick group (priorityRetry start param.retry index)).toOption.join = some channel
  skipped : ∀ earlier group, start ≤ earlier → earlier < index → groups[earlier]? = some group →
    (pick group (priorityRetry start param.retry earlier)).toOption.join = none
  channel : selected.channel = .ok (some channel)
  position : selected.index = index
  userGroup : selected.ctx.userGroup = ctx.userGroup
  cross : selected.ctx.tokenCrossGroupRetry = ctx.tokenCrossGroupRetry
  next : (selected.ctx.autoGroupIndex, selected.param) =
    if ctx.tokenCrossGroupRetry && settings.retryTimes ≤ priorityRetry start param.retry index then
      (some (index + 1), { param with retry := 0, resetNextTry := true })
    else (some index, { param with retry := priorityRetry start param.retry index })

section Select
variable {settings : SelectSettings} {pick : String → Nat → Except String (Option Channel)}
    {groups : List String} {start : Nat}
  {ctx : AutoContext} {param : RetryParam}

def NoneLeft (pick : String → Nat → Except String (Option Channel)) (groups : List String) (start retry : Nat) : Prop :=
  ∀ index group, start ≤ index → groups[index]? = some group →
    (pick group (priorityRetry start retry index)).toOption.join = none

theorem selectAutoGroup_cases (index : Nat) (later : start ≤ index)
    (skipped : ∀ earlier group, start ≤ earlier → earlier < index → groups[earlier]? = some group →
      (pick group (priorityRetry start param.retry earlier)).toOption.join = none) :
    let selected := selectAutoGroup settings pick start (groups.drop index) index ctx
      { param with retry := priorityRetry start param.retry index }
    (selected.channel = .ok none ∧ NoneLeft pick groups start param.retry) ∨
    ∃ found channel, start ≤ found ∧ Chosen settings pick groups start ctx param found channel selected := by
  induction left : groups.drop index generalizing index ctx with
  | nil =>
    refine .inl ⟨rfl, ?_⟩
    intro asked group from_start at_asked
    have short : groups.length ≤ index := List.drop_eq_nil_iff.mp left
    have inside : asked < groups.length := (List.getElem?_eq_some_iff.mp at_asked).1
    exact skipped asked group from_start (by omega) at_asked
  | cons group rest ih =>
    have here : groups[index]? = some group := by
      have := List.head?_drop (l := groups) (i := index)
      rw [left] at this
      exact this.symm
    have dropped : groups.drop (index + 1) = rest := by rw [← List.drop_drop, left]; rfl
    have asked : (if start < index then 0 else priorityRetry start param.retry index) =
      priorityRetry start param.retry index := by
      unfold priorityRetry
      split_ifs <;> rfl
    simp only [selectAutoGroup, asked]
    cases answer : (pick group (priorityRetry start param.retry index)).toOption.join with
    | none =>
      have restarted : priorityRetry start param.retry (index + 1) = 0 := if_pos (by omega)
      have next := @ih { ctx with autoGroupIndex := some (index + 1) } (index + 1) (by omega) ?_ dropped
      · rw [restarted] at next
        rcases next with ⟨none, nothing⟩ | ⟨found, channel, from_start, chosen⟩
        · exact .inl ⟨none, nothing⟩
        · exact .inr ⟨found, channel, from_start, chosen.picked, chosen.skipped, chosen.channel,
            chosen.position, chosen.userGroup,
            chosen.cross, chosen.next⟩
      · intro earlier other from_start before at_earlier
        rcases Nat.lt_succ_iff_lt_or_eq.mp before with less | rfl
        · exact skipped earlier other from_start less at_earlier
        · rw [here] at at_earlier
          cases at_earlier
          exact answer
    | some channel =>
      refine .inr ⟨index, channel, later, ⟨group, here, answer⟩, skipped, ?_, ?_, ?_, ?_, ?_⟩
      all_goals
        dsimp only
        split_ifs <;> rfl

theorem select_auto (auto : param.tokenGroup = "auto") (enabled : settings.autoGroups ≠ []) :
    let selected := cacheGetRandomSatisfiedChannel settings pick ctx param
    (selected.channel = .ok none ∧ NoneLeft pick (settings.userAutoGroups ctx.userGroup)
      (ctx.autoGroupIndex.getD 0) param.retry) ∨
    ∃ found channel, ctx.autoGroupIndex.getD 0 ≤ found ∧
      Chosen settings pick (settings.userAutoGroups ctx.userGroup)
        (ctx.autoGroupIndex.getD 0) ctx param found channel selected := by
  simp only [cacheGetRandomSatisfiedChannel, auto, if_true, enabled, if_false]
  have own : priorityRetry (ctx.autoGroupIndex.getD 0) param.retry (ctx.autoGroupIndex.getD 0) =
    param.retry := if_neg (lt_irrefl _)
  have cases := @selectAutoGroup_cases settings pick (settings.userAutoGroups ctx.userGroup)
    (ctx.autoGroupIndex.getD 0) ctx param
    (ctx.autoGroupIndex.getD 0) le_rfl (fun _ _ _ before => absurd before (by omega))
  rw [own] at cases
  exact cases

end Select

def passed (state : RouteState) : Nat :=
  if state.param.tokenGroup = "auto" ∧ state.channelMeta = true then state.ctx.autoGroupIndex.getD 0 else 0

structure Within (retries : Nat) (state : RouteState) : Prop where
  reset : state.param.resetNextTry = false
  retry : state.param.retry ≤ retries
  attempts : state.attempts.length ≤ (retries + 1) * passed state + state.param.retry

structure Ready (config : RouteConfig) (before state : RouteState) : Prop where
  attempts : state.attempts = before.attempts
  stopped : state.stopped = before.stopped
  userGroup : state.ctx.userGroup = before.ctx.userGroup
  total : state.attempts.length + 1 ≤ (config.policy.retryTimes + 1) *
    max 1 (config.userAutoGroups before.ctx.userGroup).length
  count : state.attempts.length + 1 ≤ (config.policy.retryTimes + 1) * passed state + state.param.increaseRetry.retry

abbrev maxTurns (config : RouteConfig) (state : RouteState) : Nat :=
  (config.policy.retryTimes + 1) * max 1 (config.userAutoGroups state.ctx.userGroup).length

section Turns
variable {config : RouteConfig} {state : RouteState} {input : RouteInput}

theorem increaseRetry_reset (param : RetryParam) : param.increaseRetry.resetNextTry = false := by
  unfold RetryParam.increaseRetry
  split_ifs with reset
  · rfl
  · simpa using reset

theorem increaseRetry_of_reset {param : RetryParam} (reset : param.resetNextTry = false) :
    param.increaseRetry.retry = param.retry + 1 := by
  simp [RetryParam.increaseRetry, reset]

theorem ready_unpassed {after : RouteState} (within : Within config.policy.retryTimes state)
    (unpassed : passed state = 0)
    (attempts : after.attempts = state.attempts) (stopped : after.stopped = state.stopped)
    (ctx : after.ctx = state.ctx) (param : after.param = state.param) :
    Ready config state after := by
  have few := within.attempts
  have enough := within.retry
  rw [unpassed, Nat.mul_zero, Nat.zero_add] at few
  refine ⟨attempts, stopped, by rw [ctx], ?_, ?_⟩
  · rw [attempts]
    calc state.attempts.length + 1 ≤ config.policy.retryTimes + 1 := by omega
      _ ≤ maxTurns config state :=
        Nat.le_mul_of_pos_right _ (by omega)
  · rw [attempts, param, increaseRetry_of_reset within.reset]
    omega

theorem room {retries start retry index attempts} (few : attempts ≤ (retries + 1) * start + retry)
    (enough : retry ≤ retries)
    (later : start ≤ index) : attempts + 1 ≤ (retries + 1) * index + priorityRetry start retry index + 1 ∧
      priorityRetry start retry index ≤ retries := by
  unfold priorityRetry
  split_ifs with further
  · have gained : (retries + 1) * (start + 1) ≤ (retries + 1) * index := Nat.mul_le_mul_left _ further
    rw [Nat.mul_succ] at gained
    omega
  · obtain rfl : start = index := by omega
    exact ⟨by omega, enough⟩

theorem ready_chosen {pick selected index channel}
    (within : Within config.policy.retryTimes state) (auto : state.param.tokenGroup = "auto")
    (known : state.channelMeta = true)
    (later : state.ctx.autoGroupIndex.getD 0 ≤ index)
    (chosen : Chosen config.settings pick (config.userAutoGroups state.ctx.userGroup) (state.ctx.autoGroupIndex.getD 0) state.ctx state.param index
      channel selected) :
    Ready config state { state with ctx := selected.ctx, param := selected.param, index := selected.index, channel := channel } := by
  have few := within.attempts
  rw [passed, if_pos ⟨auto, known⟩] at few
  obtain ⟨space, _⟩ := room few within.retry later
  obtain ⟨_, inside, -⟩ := chosen.picked
  have bound : index < (config.userAutoGroups state.ctx.userGroup).length := (List.getElem?_eq_some_iff.mp inside).1
  refine ⟨rfl, rfl, chosen.userGroup, ?_, ?_⟩
  · calc state.attempts.length + 1 ≤ (config.policy.retryTimes + 1) * (index + 1) := by rw [Nat.mul_succ]; omega
      _ ≤ maxTurns config state := Nat.mul_le_mul_left _ (by omega)
  · have next := chosen.next
    split_ifs at next
    · obtain ⟨position, param⟩ := Prod.mk.inj next
      simp only [passed, param, position, auto, known, RetryParam.increaseRetry, Option.getD_some, if_true, and_self]
      rw [Nat.mul_succ]
      omega
    · obtain ⟨position, param⟩ := Prod.mk.inj next
      simp only [passed, param, position, auto, known, RetryParam.increaseRetry, within.reset,
        Option.getD_some, and_self, if_true,
        Bool.false_eq_true, if_false]
      exact space

theorem getChannel_ready (within : Within config.policy.retryTimes state)
    (selected : (state.getChannel config input).2 = true) :
    Ready config state (state.getChannel config input).1 := by
  unfold RouteState.getChannel at selected ⊢
  by_cases known : state.channelMeta = true
  · rw [if_pos known] at selected ⊢
    by_cases auto : state.param.tokenGroup = "auto"
    · by_cases enabled : config.settings.autoGroups = []
      · simp [cacheGetRandomSatisfiedChannel, auto, enabled, Except.toOption] at selected
      · rcases @select_auto config.settings input.pick state.ctx state.param auto enabled with ⟨none, -⟩ | ⟨_, channel, later, chosen⟩
        · simp [none, Except.toOption] at selected
        · simp only [chosen.channel, Except.toOption, Option.join_some]
          exact ready_chosen within auto known later chosen
    · have same : cacheGetRandomSatisfiedChannel config.settings input.pick state.ctx state.param =
          ⟨input.pick state.param.tokenGroup state.param.retry, state.param.tokenGroup, 0,
            state.ctx, state.param⟩ := if_neg auto
      rw [same] at selected ⊢
      dsimp only at selected ⊢
      cases picked : (input.pick state.param.tokenGroup state.param.retry).toOption.join with
      | none => simp [picked] at selected
      | some => exact ready_unpassed within (by simp [passed, auto]) rfl rfl rfl rfl
  · rw [if_neg known]
    exact ready_unpassed within (by simp [passed, known]) rfl rfl rfl rfl

theorem attempted_cases (config : RouteConfig) (input : RouteInput) (state : RouteState) :
    (state.attempt config input).attempts = state.attempts ++ [(state.index, state.channel)] ∧
      (state.attempt config input).ctx = state.ctx ∧
    ((state.attempt config input).stopped = false → (state.attempt config input).param = state.param.increaseRetry ∧
      state.param.increaseRetry.retry ≤ config.policy.retryTimes ∧
        (state.attempt config input).channelMeta = (state.channelMeta || input.channelMeta)) := by
  unfold RouteState.attempt
  cases input.result with
  | none => exact ⟨rfl, rfl, by simp⟩
  | some =>
    dsimp only
    split_ifs
    · exact ⟨rfl, rfl, fun within => ⟨rfl, by simpa using within, rfl⟩⟩
    · exact ⟨rfl, rfl, by simp⟩

theorem increaseRetry_group (param : RetryParam) : param.increaseRetry.tokenGroup = param.tokenGroup := by
  unfold RetryParam.increaseRetry
  split_ifs <;> rfl

theorem turn_within (within : Within config.policy.retryTimes state) (going : state.stopped = false)
    (total : state.attempts.length ≤ maxTurns config state) :
    let next := routeTurn config state input
    next.attempts.length ≤ maxTurns config state ∧
    (next.stopped = false → Within config.policy.retryTimes next ∧ next.attempts.length = state.attempts.length + 1 ∧
      next.ctx.userGroup = state.ctx.userGroup) := by
  have kept : (state.getChannel config input).1.attempts = state.attempts := by
    unfold RouteState.getChannel
    split_ifs
    · dsimp only
      split <;> rfl
    · rfl
  unfold routeTurn
  rw [going, if_neg (by simp)]
  rcases found : state.getChannel config input with ⟨after, selected⟩
  rw [found] at kept
  cases selected with
  | false => exact ⟨by rw [kept]; exact total, by simp⟩
  | true =>
    have ready : Ready config state after := by
      have := @getChannel_ready config state input within (by rw [found])
      rwa [found] at this
    dsimp only
    split_ifs
    · exact ⟨by rw [kept]; exact total, by simp⟩
    · obtain ⟨noted, ctx, goes⟩ := attempted_cases config input after
      have one : (after.attempt config input).attempts.length = after.attempts.length + 1 := by simp [noted]
      refine ⟨by rw [one]; exact ready.total, fun on => ?_⟩
      obtain ⟨param, enough, known⟩ := goes on
      have further : passed after ≤ passed (after.attempt config input) := by
        simp only [passed, param, ctx, known, increaseRetry_group]
        cases after.channelMeta <;> simp
      refine ⟨⟨?_, ?_, ?_⟩, ?_, ?_⟩
      · rw [param, increaseRetry_reset]
      · rw [param]
        exact enough
      · rw [one, param]
        exact ready.count.trans (Nat.add_le_add_right (Nat.mul_le_mul_left _ further) _)
      · rw [one, ready.attempts]
      · rw [ctx, ready.userGroup]

end Turns

theorem over_stays {config state} (ended : state.stopped = true) (inputs) :
    run (routeTurn config) state inputs = state := by
  induction inputs with
  | nil => rfl
  | cons _ _ ih => rw [run, routeTurn, if_pos ended, ih]

theorem route_within {config state} (inputs) (within : Within config.policy.retryTimes state)
    (going : state.stopped = false)
    (total : state.attempts.length ≤ maxTurns config state) :
    (run (routeTurn config) state inputs).attempts.length ≤
      maxTurns config state ∧
    ((run (routeTurn config) state inputs).stopped = false →
      (run (routeTurn config) state inputs).attempts.length = state.attempts.length + inputs.length) := by
  induction inputs generalizing state with
  | nil => exact ⟨total, fun _ => rfl⟩
  | cons input _ ih =>
    obtain ⟨bound, goes⟩ := @turn_within config state input within going total
    rw [run]
    cases ended : (routeTurn config state input).stopped with
    | true =>
      rw [over_stays ended]
      exact ⟨bound, by simp [ended]⟩
    | false =>
      obtain ⟨within, one, userGroup⟩ := goes ended
      rw [maxTurns, ← userGroup] at bound ⊢
      obtain ⟨bounded, counted⟩ := ih within ended bound
      refine ⟨bounded, fun on => ?_⟩
      rw [counted on, one, List.length_cons]
      omega

theorem retries_bounded (config : RouteConfig) (ctx : AutoContext)
    (tokenGroup modelName requestPath : String) (index : Nat) (channel : Channel)
    (inputs : List RouteInput) :
    let param : RetryParam := { tokenGroup := tokenGroup, modelName := modelName, requestPath := requestPath }
    let final := run (routeTurn config) { ctx := ctx, param := param, index := index, channel := channel } inputs
    let bound := (config.policy.retryTimes + 1) * max 1 (config.userAutoGroups ctx.userGroup).length
    final.attempts.length ≤ bound ∧ (bound < inputs.length → final.stopped = true) := by
  intro param final bound
  have start : Within config.policy.retryTimes { ctx := ctx, param := param, index := index, channel := channel } :=
    ⟨rfl, Nat.zero_le _, Nat.zero_le _⟩
  obtain ⟨bounded, counted⟩ := route_within inputs start rfl (Nat.zero_le _)
  refine ⟨bounded, fun _ => ?_⟩
  by_contra on
  have all : final.attempts.length = 0 + inputs.length := counted (by simpa using on)
  have few : final.attempts.length ≤ bound := bounded
  omega

end NewApi.Proof
