import NewApi.Middleware.Distributor
import NewApi.Proof.ChannelSelectors
import NewApi.Proof.RouteRetries

/-! # The order of the groups -/

namespace NewApi.Proof
open Library Model Relay Service Controller Middleware List

/-! ## The attempts in a group -/

section Blocks
variable {priorities : Nat → List Int} {retries group count : Nat} {log : List (Nat × Int)}

def block (priorities : Nat → List Int) (group count : Nat) : List (Nat × Int) :=
  ((range count).filterMap (levelAt (priorities group))).map (group, ·)

def triedBefore (priorities : Nat → List Int) (retries group : Nat) : List (Nat × Int) :=
  (range group).flatMap fun earlier => block priorities earlier (retries + 1)

def triedUpTo (priorities : Nat → List Int) (retries group count : Nat) : List (Nat × Int) :=
  triedBefore priorities retries group ++ block priorities group count

theorem mem_block {entry} : entry ∈ block priorities group count ↔
    entry.1 = group ∧ ∃ index < count, levelAt (priorities group) index = some entry.2 := by
  obtain ⟨_, priority⟩ := entry
  simp only [block, mem_map, mem_filterMap, mem_range, Prod.mk.injEq]
  constructor
  · rintro ⟨_, ⟨index, early, found⟩, rfl, rfl⟩
    exact ⟨rfl, index, early, found⟩
  · rintro ⟨rfl, index, early, found⟩
    exact ⟨priority, ⟨index, early, found⟩, rfl, rfl⟩

theorem mem_triedUpTo {entry} : entry ∈ triedUpTo priorities retries group count ↔
    (entry.1 < group ∧ ∃ index < retries + 1, levelAt (priorities entry.1) index = some entry.2) ∨
      (entry.1 = group ∧ ∃ index < count, levelAt (priorities group) index = some entry.2) := by
  simp only [triedUpTo, triedBefore, mem_append, mem_flatMap, mem_range, mem_block]
  constructor
  · rintro (⟨_, before, rfl, reached⟩ | now)
    · exact .inl ⟨before, reached⟩
    · exact .inr now
  · rintro (⟨before, reached⟩ | now)
    · exact .inl ⟨entry.1, before, rfl, reached⟩
    · exact .inr now

theorem triedUpTo_zero : triedUpTo priorities retries group 0 = triedBefore priorities retries group := append_nil _

theorem block_empty (empty : priorities group = []) : block priorities group count = [] := by
  simp [block, empty]

theorem block_succ {priority} (found : levelAt (priorities group) count = some priority) :
    block priorities group (count + 1) = block priorities group count ++ [(group, priority)] := by
  simp [block, range_succ, filterMap_append, found]

theorem triedBefore_succ : triedBefore priorities retries (group + 1) =
    triedUpTo priorities retries group (retries + 1) := by
  simp [triedBefore, triedUpTo, range_succ, flatMap_append]

theorem triedBefore_skip {later} (before : group ≤ later)
    (empty : ∀ index, group ≤ index → index < later → priorities index = []) :
    triedBefore priorities retries later = triedBefore priorities retries group := by
  induction later with
  | zero => rw [Nat.le_zero.mp before]
  | succ later ih =>
    rcases Nat.lt_or_ge later group with reached | further
    · rw [show later + 1 = group by omega]
    · rw [triedBefore_succ, triedUpTo, block_empty (empty later further (by omega)), append_nil]
      exact ih further fun index from_group _ => empty index from_group (by omega)

def InOrder (priorities : Nat → List Int) (log : List (Nat × Int)) : Prop :=
  log.Pairwise (fun first second => first.1 < second.1 ∨ first.1 = second.1 ∧ second.2 ≤ first.2) ∧
    ∀ entry ∈ log, ∀ group < entry.1, ∀ priority ∈ priorities group, (group, priority) ∈ log

instance (priorities : Nat → List Int) (log : List (Nat × Int)) :
    Decidable (InOrder priorities log) := inferInstanceAs (Decidable (_ ∧ _))

theorem block_falls : (block priorities group count).Pairwise fun first second => first.2 ≥ second.2 := by
  unfold block
  rw [pairwise_map, pairwise_filterMap]
  refine pairwise_lt_range.imp ?_
  intro _ _ before _ found _ found'
  exact levelAt_falls (le_of_lt before) found found'

theorem triedUpTo_sorted : (triedUpTo priorities retries group count).Pairwise
    (fun first second => first.1 < second.1 ∨ first.1 = second.1 ∧ second.2 ≤ first.2) := by
  have within : ∀ group count, (block priorities group count).Pairwise
      (fun first second => first.1 < second.1 ∨ first.1 = second.1 ∧ second.2 ≤ first.2) := by
    intro group count
    refine block_falls.imp_of_mem ?_
    intro first second mem member' falls
    rw [mem_block] at mem member'
    exact .inr ⟨mem.1.trans member'.1.symm, falls⟩
  unfold triedUpTo
  rw [pairwise_append]
  refine ⟨?_, within group count, ?_⟩
  · unfold triedBefore
    rw [pairwise_flatMap]
    refine ⟨fun earlier _ => within earlier (retries + 1), pairwise_lt_range.imp ?_⟩
    intro _ _ before _ mem _ member'
    rw [mem_block] at mem member'
    exact .inl (by omega)
  · intro _ mem _ member'
    obtain ⟨_, before, inside⟩ := mem_flatMap.mp mem
    rw [mem_block] at inside member'
    have := mem_range.mp before
    exact .inl (by omega)

def Fitting (priorities : Nat → List Int) (retries : Nat) : Prop :=
  ∀ group later, group < later → priorities later ≠ [] → (levels (priorities group)).length ≤ retries + 1

theorem inOrder_of_fitting (fitting : Fitting priorities retries) :
    InOrder priorities (triedUpTo priorities retries group count) := by
  refine ⟨triedUpTo_sorted, ?_⟩
  intro entry mem earlier before priority listed
  have present : priorities entry.1 ≠ [] := by
    intro empty
    rcases mem_triedUpTo.mp mem with ⟨-, _, -, found⟩ | ⟨same, _, -, found⟩
    · simp [empty] at found
    · rw [← same, empty] at found
      cases found
  have behind : entry.1 ≤ group := by rcases mem_triedUpTo.mp mem with ⟨less, -⟩ | ⟨same, -⟩ <;> omega
  have reached := (levels_reached_iff (retries + 1)).mpr (fitting earlier entry.1 before present) priority listed
  exact mem_triedUpTo.mpr (.inl ⟨by dsimp only; omega, reached⟩)

theorem fitting_of_inOrder {groups} (outside : ∀ index, groups ≤ index → priorities index = [])
    (inOrder : InOrder priorities (triedUpTo priorities retries groups 0)) : Fitting priorities retries := by
  intro earlier later before present
  have inside : later < groups := by
    by_contra beyond
    exact present (outside later (by omega))
  obtain ⟨priority, found⟩ := levelAt_some present 0
  have tried : (later, priority) ∈ triedUpTo priorities retries groups 0 :=
    mem_triedUpTo.mpr (.inl ⟨inside, 0, by omega, found⟩)
  rw [← levels_reached_iff]
  intro value listed
  rcases mem_triedUpTo.mp (inOrder.2 _ tried earlier before value listed) with ⟨-, reached⟩ | ⟨same, -⟩
  · exact reached
  · dsimp only at same
    omega

end Blocks

/-! ## Runs that fail -/

def Retryable (policy : RetryPolicy) (err : NewAPIError) :
    Prop := shouldRetry policy (normalizeViolationFeeError err) 1 = true

def routeLog (state : RouteState) : List (Nat × Int) := state.attempts.map fun attempt =>
    (attempt.1, attempt.2.getPriority)

def Clamped (priorityOf : String → List Int) (pick : String → Nat → Except String (Option Channel)) : Prop :=
  ∀ group retry, (pick group retry).toOption.join.map Channel.getPriority = levelAt (priorityOf group) retry

def prioritiesAt (priorityOf : String → List Int) (groups : List String) (index : Nat) :
    List Int := (groups[index]?.map priorityOf).getD []

structure Progress (config : RouteConfig) (groups : List String) (priorities : Nat → List Int)
    (group retry : Nat) (state : RouteState) : Prop where
  auto : state.param.tokenGroup = "auto"
  cross : state.ctx.tokenCrossGroupRetry = true
  list : config.userAutoGroups state.ctx.userGroup = groups
  position : state.ctx.autoGroupIndex = some group
  count : state.param.retry = retry
  few : retry ≤ config.policy.retryTimes
  reset : state.param.resetNextTry = false
  known : state.channelMeta = true
  going : state.stopped = false
  present : 0 < retry → priorities group ≠ []
  log : routeLog state = triedUpTo priorities config.policy.retryTimes group retry

section Runs
variable {config : RouteConfig} {groups : List String} {priorityOf : String → List Int}
    {pick : String → Nat → Except String (Option Channel)}
  {err : NewAPIError} {state : RouteState} {group retry : Nat}

theorem shouldRetry_left {left} (retryable : Retryable config.policy err) (some : 1 ≤ left) :
    shouldRetry config.policy (normalizeViolationFeeError err) left = true := by
  have one : ¬(1 : Int) ≤ 0 := by decide
  have many : ¬left ≤ 0 := by omega
  simpa only [Retryable, shouldRetry, one, many] using retryable

theorem attempt_retries (retryable : Retryable config.policy err)
    (fewer : state.param.retry < config.policy.retryTimes) :
    state.attempt config { pick := pick, result := some err } = { state with
      attempts := state.attempts ++ [(state.index, state.channel)]
      channelMeta := true
      param := state.param.increaseRetry
      stopped := config.policy.retryTimes < state.param.increaseRetry.retry } := by
  have again := shouldRetry_left retryable (show (1 : Int) ≤ (config.policy.retryTimes : Int) -
    state.param.retry by omega)
  simp only [RouteState.attempt, again, if_true, Bool.or_true]

theorem clamped_none (clamped : Clamped priorityOf pick) {index asked name} (at_index : groups[index]? = some name) :
    (pick name asked).toOption.join = none ↔ prioritiesAt priorityOf groups index = [] := by
  have level := clamped name asked
  rw [← Option.map_eq_none_iff, level, levelAt_eq_none, prioritiesAt, at_index]
  rfl

theorem chosen_turn (retryable : Retryable config.policy err)
    (retries : 1 ≤ config.policy.retryTimes) (clamped : Clamped priorityOf pick)
    (progress : Progress config groups (prioritiesAt priorityOf groups) group retry state)
    {index channel selected} (later : group ≤ index)
    (chosen : Chosen config.settings pick groups group state.ctx state.param index channel selected) :
    ∃ group' retry', Progress config groups (prioritiesAt priorityOf groups) group' retry'
      (({ state with ctx := selected.ctx, param := selected.param, index :=
        selected.index, channel := channel } : RouteState).attempt config
        { pick := pick, result := some err }) := by
  obtain ⟨name, at_index, picked⟩ := chosen.picked
  have found : levelAt (prioritiesAt priorityOf groups index)
    (priorityRetry group state.param.retry index) = some channel.getPriority := by
    have level := clamped name (priorityRetry group state.param.retry index)
    rw [picked] at level
    rw [prioritiesAt, at_index]
    exact level.symm
  have present : prioritiesAt priorityOf groups index ≠ [] := by
    intro empty
    rw [empty] at found
    cases found
  have asked : priorityRetry group state.param.retry index ≤ config.policy.retryTimes := by
    unfold priorityRetry
    split_ifs
    · exact Nat.zero_le _
    · rw [progress.count]
      exact progress.few
  -- The groups in between have no channels, and then the group that was to be tried had none either.
  have before : routeLog state =
      triedUpTo (prioritiesAt priorityOf groups) config.policy.retryTimes index
        (priorityRetry group state.param.retry index) := by
    rw [progress.log]
    rcases Nat.lt_or_eq_of_le later with further | rfl
    · have empty : ∀ earlier, group ≤ earlier → earlier < index → prioritiesAt priorityOf groups earlier = [] := by
        intro earlier from_group less
        have inside : earlier < groups.length := less.trans (List.getElem?_eq_some_iff.mp at_index).1
        exact (clamped_none clamped (getElem?_eq_getElem inside)).mp
          (chosen.skipped earlier _ from_group less (getElem?_eq_getElem inside))
      have unstarted : retry = 0 := by
        by_contra started
        exact progress.present (by omega) (empty group le_rfl further)
      rw [priorityRetry, if_pos further, unstarted, triedUpTo_zero, triedUpTo_zero, triedBefore_skip later empty]
    · rw [priorityRetry, if_neg (lt_irrefl group), progress.count]
  have after : ∀ next : RouteState, next.attempts = state.attempts ++ [(selected.index, channel)] → routeLog next =
      triedUpTo (prioritiesAt priorityOf groups) config.policy.retryTimes index
        (priorityRetry group state.param.retry index + 1) := by
    intro next attempts
    rw [routeLog, attempts, map_append, ← routeLog, before, triedUpTo, triedUpTo, block_succ found,
      append_assoc, chosen.position]
    rfl
  have next := chosen.next
  have cross : state.ctx.tokenCrossGroupRetry = true := progress.cross
  have settings : config.settings.retryTimes = config.policy.retryTimes := rfl
  rw [cross, Bool.true_and, settings] at next
  by_cases exhausted : config.policy.retryTimes ≤ priorityRetry group state.param.retry index
  · rw [if_pos (by simpa using exhausted)] at next
    obtain ⟨position, param⟩ := Prod.mk.inj next
    have all : priorityRetry group state.param.retry index = config.policy.retryTimes := le_antisymm asked exhausted
    have again : selected.param.increaseRetry.retry = 0 := by rw [param]; rfl
    refine ⟨index + 1, 0, ?_⟩
    rw [attempt_retries retryable (by rw [param]; exact retries)]
    refine ⟨?_, chosen.cross.trans cross, ?_, position, again, Nat.zero_le _, increaseRetry_reset _,
      rfl, ?_, fun none => absurd none (lt_irrefl 0), ?_⟩
    · rw [increaseRetry_group, param]
      exact progress.auto
    · rw [chosen.userGroup]
      exact progress.list
    · simp [again]
    · rw [after _ rfl, all, triedUpTo_zero, triedBefore_succ]
  · rw [if_neg (by simpa using exhausted)] at next
    obtain ⟨position, param⟩ := Prod.mk.inj next
    have one : selected.param.increaseRetry.retry = priorityRetry group state.param.retry index + 1 := by
      rw [increaseRetry_of_reset (by rw [param]; exact progress.reset), param]
    refine ⟨index, priorityRetry group state.param.retry index + 1, ?_⟩
    rw [attempt_retries retryable (by rw [param]; exact Nat.lt_of_not_le exhausted)]
    refine ⟨?_, chosen.cross.trans cross, ?_, position, one, by omega, increaseRetry_reset _, rfl,
      ?_, fun _ => present, after _ rfl⟩
    · rw [increaseRetry_group, param]
      exact progress.auto
    · rw [chosen.userGroup]
      exact progress.list
    · simp only [one, decide_eq_false_iff_not]
      omega

theorem progress_turn (retryable : Retryable config.policy err)
    (retries : 1 ≤ config.policy.retryTimes) (enabled : config.autoGroups ≠ [])
    (clamped : Clamped priorityOf pick) (progress : Progress config groups
    (prioritiesAt priorityOf groups) group retry state) :
    let next := routeTurn config state { pick := pick, result := some err }
    (∃ group' retry', Progress config groups (prioritiesAt priorityOf groups) group' retry' next) ∨
    (next.stopped = true ∧ routeLog next = triedUpTo (prioritiesAt priorityOf groups)
      config.policy.retryTimes groups.length 0) := by
  have start : state.ctx.autoGroupIndex.getD 0 = group := by rw [progress.position]; rfl
  have selection := @select_auto config.settings pick state.ctx state.param progress.auto enabled
  have listed : config.settings.userAutoGroups state.ctx.userGroup = groups := progress.list
  rw [listed, start] at selection
  intro next
  have turn : next = routeTurn config state { pick := pick, result := some err } := rfl
  rw [routeTurn, if_neg (by simp [progress.going]), RouteState.getChannel, if_pos progress.known] at turn
  dsimp only at turn
  rcases selection with ⟨none, nothing⟩ | ⟨index, channel, later, chosen⟩
  · rw [none] at turn
    refine .inr ⟨by rw [turn]; rfl, ?_⟩
    have same : routeLog next = routeLog state := by rw [turn]; rfl
    have empty : ∀ index, group ≤ index → prioritiesAt priorityOf groups index = [] := by
      intro index from_group
      cases at_index : groups[index]? with
      | none => simp [prioritiesAt, at_index]
      | some name => exact (clamped_none clamped at_index).mp (nothing index name from_group at_index)
    have unstarted : retry = 0 := by
      by_contra started
      exact progress.present (by omega) (empty group le_rfl)
    have outside : ∀ index, groups.length ≤ index → prioritiesAt priorityOf groups index = [] := by
      intro index beyond
      simp [prioritiesAt, getElem?_eq_none beyond]
    rw [same, progress.log, unstarted, triedUpTo_zero, triedUpTo_zero]
    rcases Nat.le_total group groups.length with before | beyond
    · rw [triedBefore_skip before fun index from_group _ => empty index from_group]
    · rw [triedBefore_skip beyond fun index from_end _ => outside index from_end]
  · rw [chosen.channel] at turn
    left
    rw [turn]
    exact chosen_turn retryable retries clamped progress later chosen

def OnTrack (config : RouteConfig) (groups : List String) (priorities : Nat → List Int) (state : RouteState) : Prop :=
  (∃ group retry, Progress config groups priorities group retry state) ∨
    (state.stopped = true ∧ routeLog state = triedUpTo priorities config.policy.retryTimes groups.length 0)

def AttemptFails (config : RouteConfig) (priorityOf : String → List Int) (input : RouteInput) : Prop :=
  ∃ pick err, input = { pick := pick, result := some err } ∧ Clamped priorityOf pick ∧ Retryable config.policy err

theorem onTrack_run (retries : 1 ≤ config.policy.retryTimes) (enabled : config.autoGroups ≠ []) {inputs}
    (fails : ∀ input ∈ inputs, AttemptFails config priorityOf input)
    (onTrack : OnTrack config groups (prioritiesAt priorityOf groups) state) :
    OnTrack config groups (prioritiesAt priorityOf groups) (run (routeTurn config) state inputs) := by
  induction inputs generalizing state with
  | nil => exact onTrack
  | cons input _ ih =>
    rw [run]
    refine ih (fun later mem => fails later (by simp [mem])) ?_
    obtain ⟨_, _, rfl, clamped, retryable⟩ := fails input (by simp)
    rcases onTrack with ⟨_, _, progress⟩ | ⟨ended, log⟩
    · exact progress_turn retryable retries enabled clamped progress
    · rw [routeTurn, if_pos ended]
      exact .inr ⟨ended, log⟩

def firstParam (modelName requestPath : String) : RetryParam :=
    { tokenGroup := "auto", modelName := modelName, requestPath := requestPath }

def routeStart (selected : SelectedChannel) (channel : Channel) (modelName requestPath : String) : RouteState :=
  { ctx := selected.ctx, param := firstParam modelName requestPath, index := selected.index, channel := channel }

theorem onTrack_first {ctx channel modelName requestPath first} (retries : 1 ≤ config.policy.retryTimes)
    (retryable : Retryable config.policy err) (cross : ctx.tokenCrossGroupRetry = true)
    (fresh : ctx.autoGroupIndex = none)
    (enabled : config.autoGroups ≠ []) (clamped : Clamped priorityOf first)
    (found : (cacheGetRandomSatisfiedChannel config.settings first ctx
    (firstParam modelName requestPath)).channel = .ok (some channel)) :
    OnTrack config (config.userAutoGroups ctx.userGroup)
      (prioritiesAt priorityOf (config.userAutoGroups ctx.userGroup)) (routeTurn config
        (routeStart (cacheGetRandomSatisfiedChannel config.settings first ctx
          (firstParam modelName requestPath)) channel modelName requestPath)
        { pick := pick, result := some err }) := by
  have start : ctx.autoGroupIndex.getD 0 = 0 := by rw [fresh]; rfl
  rcases @select_auto config.settings first ctx (firstParam modelName requestPath) rfl
    enabled with ⟨none, -⟩ | ⟨index, channel', -, chosen⟩
  · rw [none] at found
    cases found
  · generalize cacheGetRandomSatisfiedChannel config.settings first ctx
      (firstParam modelName requestPath) = selected at found chosen ⊢
    rw [start] at chosen
    obtain rfl : channel' = channel := by
      rw [chosen.channel] at found
      simpa using found
    let before : RouteState :=
      { ctx := { ctx with autoGroupIndex := some 0 }, param :=
        firstParam modelName requestPath, index := 0, channel := channel', channelMeta := true }
    have progress : Progress config (config.userAutoGroups ctx.userGroup)
        (prioritiesAt priorityOf (config.userAutoGroups ctx.userGroup)) 0 0 before :=
      ⟨rfl, cross, rfl, rfl, rfl, Nat.zero_le _, rfl, rfl, rfl, fun none => absurd none (lt_irrefl 0), rfl⟩
    have chosen' : Chosen config.settings first (config.userAutoGroups ctx.userGroup) 0 before.ctx
      before.param index channel' selected :=
      ⟨chosen.picked, chosen.skipped, chosen.channel, chosen.position, chosen.userGroup, chosen.cross, chosen.next⟩
    have param : selected.param = firstParam modelName requestPath := by
      have next := chosen.next
      have zero : priorityRetry 0 (firstParam modelName requestPath).retry index = 0 := by
        unfold priorityRetry
        split_ifs <;> rfl
      have more : ¬config.settings.retryTimes ≤ 0 := Nat.not_le_of_lt retries
      rw [zero, decide_eq_false more, Bool.and_false, if_neg (by simp)] at next
      exact (Prod.mk.inj next).2
    obtain ⟨group, retry, after⟩ := chosen_turn retryable retries clamped progress (Nat.zero_le index) chosen'
    rw [param, attempt_retries retryable (by exact retries)] at after
    refine .inl ⟨group, retry, ?_⟩
    have turn : routeTurn config (routeStart selected channel' modelName requestPath)
      { pick := pick, result := some err } =
        (routeStart selected channel' modelName requestPath).attempt config { pick := pick, result := some err } := rfl
    rw [turn, attempt_retries retryable (by exact retries)]
    exact after

end Runs

/-! ## The memory cache -/

section Cached
variable (env : ChannelEnv) (db : ChannelDb) (old : ChannelCache) (config : RouteConfig)
    (ctx : AutoContext) (modelName requestPath : String)

def pickCached (draw : Nat) (group : String) (retry : Nat) : Except String (Option Channel) :=
  getRandomSatisfiedChannel env (old.swap db.channels) group modelName retry requestPath draw

def groupPriorities (group : String) :
    List Int := (cachedCandidates env db group modelName requestPath).map Channel.getPriority

theorem pickCached_clamped (draw : Nat) : Clamped (groupPriorities env db modelName requestPath)
    (pickCached env db old modelName requestPath draw) :=
  fun group retry => getRandom_priority env db old group modelName requestPath retry draw

def routed (selected : SelectedChannel) (channel : Channel) (turns : List (Nat × NewAPIError)) : RouteState :=
  run (routeTurn config) (routeStart selected channel modelName requestPath)
    (turns.map fun turn => { pick := pickCached env db old modelName requestPath turn.1, result := some turn.2 })

def firstSelected (draw : Nat) : SelectedChannel :=
  cacheGetRandomSatisfiedChannel config.settings (pickCached env db old modelName requestPath draw)
    ctx (firstParam modelName requestPath)

def userPriorities : Nat → List Int :=
  prioritiesAt (groupPriorities env db modelName requestPath) (config.userAutoGroups ctx.userGroup)

end Cached

theorem channelError_retryable {policy} (anywhere : policy.affinitySkipRetry = false) :
    Retryable policy { errorCode := "channel:no_available_key" } := by
  have normal : normalizeViolationFeeError { errorCode := "channel:no_available_key" } =
    { errorCode := "channel:no_available_key" } := by decide
  have channels : NewAPIError.isChannelError { errorCode := "channel:no_available_key" } = true := by decide
  rw [Retryable, normal, shouldRetry, anywhere, channels]
  rfl

section Cached
variable {env : ChannelEnv} {db : ChannelDb} {old : ChannelCache} {config : RouteConfig}
    {ctx : AutoContext} {modelName requestPath : String}
  {draw : Nat} {channel : Channel} {selected : SelectedChannel} {turns : List (Nat × NewAPIError)}

theorem routed_over (enough : (config.policy.retryTimes + 1) *
    max 1 (config.userAutoGroups selected.ctx.userGroup).length < turns.length) :
    (routed env db old config modelName requestPath selected channel turns).stopped = true := by
  have within : Within config.policy.retryTimes (routeStart selected channel modelName requestPath) := ⟨rfl, Nat.zero_le _, Nat.zero_le _⟩
  obtain ⟨bounded, counted⟩ := route_within
    (turns.map fun turn => { pick := pickCached env db old modelName requestPath turn.1, result := some turn.2 }) within rfl (Nat.zero_le _)
  by_contra on
  have all := counted (Bool.eq_false_of_not_eq_true on)
  have none : (routeStart selected channel modelName requestPath).attempts.length = 0 := rfl
  have same : (routeStart selected channel modelName requestPath).ctx = selected.ctx := rfl
  rw [all, none, maxTurns, same, length_map] at bounded
  omega

theorem routed_onTrack (retries : 1 ≤ config.policy.retryTimes)
    (cross : ctx.tokenCrossGroupRetry = true) (fresh : ctx.autoGroupIndex = none)
    (found : (firstSelected env db old config ctx modelName requestPath draw).channel =
    .ok (some channel)) (some : turns ≠ [])
    (retryable : ∀ turn ∈ turns, Retryable config.policy turn.2) :
    OnTrack config (config.userAutoGroups ctx.userGroup) (userPriorities env db config ctx modelName requestPath)
      (routed env db old config modelName requestPath (firstSelected env db old config ctx modelName
        requestPath draw) channel turns) := by
  have enabled : config.autoGroups ≠ [] := by
    intro none
    have disabled : config.settings.autoGroups = [] := none
    simp [firstSelected, cacheGetRandomSatisfiedChannel, firstParam, disabled] at found
  have clamped := pickCached_clamped env db old modelName requestPath
  cases turns with
  | nil => exact absurd rfl some
  | cons turn =>
    rw [routed, map_cons, run]
    refine onTrack_run retries enabled ?_ (onTrack_first retries
      (retryable turn (by simp)) cross fresh enabled (clamped draw) found)
    intro _ mem
    obtain ⟨later, listed, rfl⟩ := mem_map.mp mem
    exact ⟨_, _, rfl, clamped later.1, retryable later (by simp [listed])⟩

end Cached

theorem groups_in_order_iff (env : ChannelEnv) (db : ChannelDb) (old : ChannelCache)
    (config : RouteConfig) (ctx : AutoContext)
    (modelName requestPath : String) (draw : Nat) (channel : Channel) (retries : 1 ≤ config.policy.retryTimes)
    (cross : ctx.tokenCrossGroupRetry = true) (fresh : ctx.autoGroupIndex = none)
    (anywhere : config.policy.affinitySkipRetry = false)
    (found : (firstSelected env db old config ctx modelName requestPath draw).channel = .ok (some channel)) :
    (∀ turns : List (Nat × NewAPIError), (∀ turn ∈ turns, Retryable config.policy turn.2) →
      InOrder (userPriorities env db config ctx modelName requestPath) (routeLog
        (routed env db old config modelName requestPath
          (firstSelected env db old config ctx modelName requestPath draw) channel turns))) ↔
    Fitting (userPriorities env db config ctx modelName requestPath) config.policy.retryTimes := by
  constructor
  · intro inOrder
    let count := (config.policy.retryTimes + 1) *
      max 1 (config.userAutoGroups (firstSelected env db old config ctx modelName requestPath
        draw).ctx.userGroup).length
    let turns : List (Nat × NewAPIError) := replicate (count + 1) (0, { errorCode := "channel:no_available_key" })
    have retryable : ∀ turn ∈ turns, Retryable config.policy turn.2 := by
      intro _ mem
      rw [eq_of_mem_replicate mem]
      exact channelError_retryable anywhere
    have kept := inOrder turns retryable
    have some : turns ≠ [] := by simp [turns]
    rcases routed_onTrack retries cross fresh found some retryable with ⟨_, _, progress⟩ | ⟨-, log⟩
    · have ended :
        (routed env db old config modelName requestPath
        (firstSelected env db old config ctx modelName requestPath draw) channel
          turns).stopped = true := routed_over (by simp [turns, count])
      have going := progress.going
      rw [ended] at going
      cases going
    · rw [log] at kept
      refine fitting_of_inOrder ?_ kept
      intro _ beyond
      simp [userPriorities, prioritiesAt, getElem?_eq_none beyond]
  · intro fitting turns retryable
    by_cases none : turns = []
    · subst none
      exact ⟨List.Pairwise.nil, fun _ mem => by cases mem⟩
    · rcases routed_onTrack retries cross fresh found none retryable with ⟨_, _, progress⟩ | ⟨-, log⟩
      · rw [progress.log]
        exact inOrder_of_fitting fitting
      · rw [log]
        exact inOrder_of_fitting fitting

def twoGroupsDb (first second : List Int) : ChannelDb :=
  let rows := first.map (fun priority => ("a", priority)) ++ second.map fun priority => ("b", priority)
  rows.zipIdx.foldl (fun db row => Channel.insert
    { id := row.2.succPNat, status := 1, models := "o", group := row.1.1, priority := some row.1.2 } row.2.succPNat db) emptyDb

def twoGroups (retryTimes : Nat) : RouteConfig := { policy := { retryTimes := retryTimes }, autoGroups := ["a", "b"], userAutoGroups := fun _ => ["a", "b"] }

def acrossGroups : AutoContext := { tokenCrossGroupRetry := true }

theorem groups_in_order_two_each :
    (range 2).map (userPriorities {} (twoGroupsDb [2, 1] [5, 4]) (twoGroups 1) acrossGroups "o" "") = [[2, 1], [5, 4]] ∧
    ∀ turns : List (Nat × NewAPIError), (∀ turn ∈ turns, Retryable (twoGroups 1).policy turn.2) →
    InOrder (userPriorities {} (twoGroupsDb [2, 1] [5, 4]) (twoGroups 1) acrossGroups "o" "") (routeLog
      (routed {} (twoGroupsDb [2, 1] [5, 4]) .empty (twoGroups 1) "o" ""
        (firstSelected {} (twoGroupsDb [2, 1] [5, 4]) .empty (twoGroups 1) acrossGroups "o" "" 0)
        (Channel.withDefaults { id := 1, status := 1, models := "o", group := "a", priority := some 2 } 1) turns)) := by
  refine ⟨by decide +kernel, ?_⟩
  refine (groups_in_order_iff {} (twoGroupsDb [2, 1] [5, 4]) .empty (twoGroups 1) acrossGroups "o" "" 0 _ le_rfl rfl rfl rfl (by decide +kernel)).mpr ?_
  intro group later _ present
  rcases later with - | - | later
  · omega
  · obtain rfl : group = 0 := by omega
    decide +kernel
  · exact absurd rfl present

def failedLog (db : ChannelDb) (ctx : AutoContext) (index : Nat) (channel : Option Channel) : List (Nat × Int) :=
  (channel.map fun channel => routeLog (routed {} db .empty (twoGroups 1) "o" ""
    ⟨.ok none, "", index, ctx, firstParam "o" ""⟩ channel
    (replicate 6 (0, { errorCode := "bad_response" })))).getD []

def preferred (db : ChannelDb) : Option (Channel × RequestContext) :=
  affinityChannel { settings := (twoGroups 1).settings, preferredChannel := fun _ _ => some 4 }
    ⟨true, db, ChannelCache.empty.swap db.channels⟩
    { acrossGroups with usingGroup := "auto" } "" "o"

theorem groups_out_of_order : (let db := twoGroupsDb [3, 2, 1] [5]
     let selected := firstSelected {} db .empty (twoGroups 1) acrossGroups "o" "" 0
     ¬InOrder (userPriorities {} db (twoGroups 1) acrossGroups "o" "") (failedLog db selected.ctx selected.index selected.channel.toOption.join)) ∧
    (let db := twoGroupsDb [2, 1] [5, 4]
     (preferred db).map (fun found => (found.2.autoGroup, found.2.autoGroupIndex)) = some (some "b", none) ∧
     ¬InOrder (userPriorities {} db (twoGroups 1) acrossGroups "o" "")
      (failedLog db (((preferred db).map (·.2.toAutoContext)).getD {}) 1 ((preferred db).map (·.1)))) := by
  decide +kernel

end NewApi.Proof
