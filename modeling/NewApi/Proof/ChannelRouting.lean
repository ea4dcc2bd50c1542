import NewApi.Proof.ChannelView

/-! # Disabled channels are not routed to -/

namespace NewApi.Proof
open Library Model ChannelNode List Option

/-! ## The cache follows the row -/

structure Alike (object row : Channel) : Prop where
  status : object.status = row.status
  key : object.key = row.key
  several : object.channelInfo.isMultiKey = row.channelInfo.isMultiKey
  statuses : object.channelInfo.multiKeyStatusList = row.channelInfo.multiKeyStatusList

theorem keepPollingIndex_alike (old : Table Channel.id) (channel) : Alike (keepPollingIndex old channel) channel := by
  unfold keepPollingIndex
  split
  · split_ifs <;> exact ⟨rfl, rfl, rfl, rfl⟩
  · exact ⟨rfl, rfl, rfl, rfl⟩

theorem handler_alike {object row} (alike : Alike object row) (env) (usingKey : String) (status : Int) :
    Alike (handlerMultiKeyUpdate env object usingKey status) (handlerMultiKeyUpdate env row usingKey status) := by
  have keys : object.getKeys env = row.getKeys env := by simp only [Channel.getKeys, alike.key]
  unfold handlerMultiKeyUpdate
  rw [keys, alike.statuses]
  by_cases empty : row.getKeys env = []
  · simp only [empty, if_true]
    exact ⟨rfl, alike.key, alike.several, alike.statuses⟩
  · simp only [empty, if_false]
    cases (row.getKeys env).findIdx? (· = usingKey) with
    | none =>
      dsimp only
      split_ifs
      · exact alike
      · exact ⟨rfl, alike.key, alike.several, alike.statuses⟩
    | some => exact ⟨by simp only [alike.status], alike.key, alike.several, rfl⟩

namespace ChannelView
variable {env : ChannelEnv} {may : Int → Prop} {view after : ChannelView}

def Mirrors (row object : Option Channel) : Prop := ∀ cached, object = some cached →
    ∃ stored, row = some stored ∧ Alike cached stored

def Shown (view : ChannelView) : Prop :=
  ∀ group model, 0 < view.listed group model → ∃ cached, view.object = some cached ∧
    cached.status = channelStatusEnabled

def Ahead (env : ChannelEnv) (view : ChannelView) (usingKey : String) (status : Int) (row : Channel) : Prop :=
  view.row = some row ∧ ∃ cached, view.object = some cached ∧ Alike cached (updatedRow env row usingKey status)

def SyncedPhase (env : ChannelEnv) (view : ChannelView) : StatusPhase → Prop
  | .idle => Mirrors view.row view.object ∧ Shown view
  | .changing _ _ object generation => generation = view.generation ∧ Mirrors view.row view.object ∧ Shown view ∧
      view.object = some object ∧ object.channelInfo.isMultiKey = true
  | .publishing usingKey status reached => ∃ row cached, view.row = some row ∧ view.object = some cached ∧
      Alike { cached with status := reached } (updatedRow env row usingKey status) ∧
      (row.channelInfo.isMultiKey = false → row.status ≠ status)
  | .fetching usingKey status => Shown view ∧ ∃ row, Ahead env view usingKey status row ∧
      (row.channelInfo.isMultiKey = false → row.status ≠ status)
  | .handling usingKey status row => Shown view ∧ Ahead env view usingKey status row
  | .saving usingKey status row updated => Shown view ∧ Ahead env view usingKey status row ∧
      updated = updatedRow env row usingKey status

structure Synced (env : ChannelEnv) (view : ChannelView) : Prop where
  once : ∀ group model, view.listed group model ≤ 1
  phase : SyncedPhase env view view.phase

variable {usingKey : String} {status : Int} {row : Channel}

theorem changed_synced {cached} (shown : Shown view) (stored : view.row = some row)
    (looked : view.object = some cached) (alike : Alike cached row) (several : cached.channelInfo.isMultiKey = true) :
    SyncedPhase env { view with
      object := some (handlerMultiKeyUpdate env cached usingKey status)
      phase := afterChange usingKey status cached (handlerMultiKeyUpdate env cached usingKey status) }
      (afterChange usingKey status cached (handlerMultiKeyUpdate env cached usingKey status)) := by
  have row_several : row.channelInfo.isMultiKey = true := alike.several ▸ several
  have ahead : Alike (handlerMultiKeyUpdate env cached usingKey status) (updatedRow env row usingKey status) := by
    rw [updatedRow, if_pos row_several]
    exact handler_alike alike env usingKey status
  have other : row.channelInfo.isMultiKey = false → row.status ≠ status := by
    intro single
    rw [row_several] at single
    cases single
  by_cases kept : cached.status = (handlerMultiKeyUpdate env cached usingKey status).status
  · rw [afterChange, if_neg (not_not.mpr kept)]
    refine ⟨?_, row, ⟨stored, _, rfl, ahead⟩, other⟩
    intro group model listed
    obtain ⟨object, found, enabled⟩ := shown group model listed
    obtain rfl : cached = object := mem_unique looked found
    exact ⟨_, rfl, kept ▸ enabled⟩
  · rw [afterChange, if_pos kept]
    exact ⟨row, _, stored, rfl, ahead, other⟩

theorem Step.synced (step : Step env may view after) (synced : Synced env view) : Synced env after := by
  obtain ⟨once, phased⟩ := synced
  cases step with
  | elsewhere => exact ⟨once, phased⟩
  | refreshed old idle unlisted once =>
    rw [idle] at phased
    refine ⟨once, ?_⟩
    rw [idle]
    constructor
    · intro cached found
      obtain ⟨row, stored, rfl⟩ := map_eq_some_iff.mp found
      exact ⟨row, stored, keepPollingIndex_alike old row⟩
    · intro group model listed
      by_contra hidden
      refine Nat.ne_of_gt listed (unlisted group model ?_)
      rintro ⟨row, stored, enabled, -⟩
      apply hidden
      refine ⟨keepPollingIndex old row, ?_, (keepPollingIndex_alike old row).status.trans enabled⟩
      simp only [stored, map_some]
  | looked idle found several =>
    rw [idle] at phased
    exact ⟨once, rfl, phased.1, phased.2, found, several⟩
  | chosen idle found single other =>
    rw [idle] at phased
    obtain ⟨row, stored, alike⟩ := phased.1 _ found
    have row_single : row.channelInfo.isMultiKey = false := alike.several ▸ single
    refine ⟨once, row, _, stored, found, ?_, fun _ => alike.status ▸ other⟩
    rw [updatedRow, row_single, if_neg (by simp)]
    exact ⟨rfl, alike.key, alike.several, alike.statuses⟩
  | changed phase found =>
    rw [phase] at phased
    obtain ⟨-, mirrors, shown, looked, several⟩ := phased
    obtain rfl := mem_unique looked found
    obtain ⟨_, stored, alike⟩ := mirrors _ looked
    exact ⟨once, changed_synced shown stored looked alike several⟩
  | orphaned phase gone =>
    rw [phase] at phased
    obtain ⟨current, -, -, looked, -⟩ := phased
    rcases gone with gone | gone
    · exact absurd current.symm gone
    · rw [looked] at gone
      cases gone
  | published phase =>
    rw [phase] at phased
    obtain ⟨row, _, stored, looked, alike, other⟩ := phased
    refine ⟨?_, ?_, row, ⟨stored, _, by simp only [looked, map_some], alike⟩, other⟩
    · intro group model
      dsimp only
      split_ifs
      · exact once group model
      · exact (Nat.sub_le _ _).trans (once group model)
    · intro group model listed
      dsimp only at listed ⊢
      rw [looked, map_some]
      refine ⟨_, rfl, ?_⟩
      by_contra disabled
      rw [if_neg disabled] at listed
      have := once group model
      omega
  | passed phase same =>
    rw [phase] at phased
    obtain ⟨_, row, ⟨stored, -⟩, other⟩ := phased
    obtain ⟨equal, single⟩ := same row stored
    exact absurd equal (other single)
  | fetched phase found =>
    rw [phase] at phased
    obtain ⟨shown, row, ahead, -⟩ := phased
    obtain rfl : row = _ := mem_unique ahead.1 found
    refine ⟨once, ?_⟩
    dsimp only
    split_ifs
    · exact ⟨shown, ahead⟩
    · exact ⟨shown, ahead, rfl⟩
  | handled phase =>
    rw [phase] at phased
    exact ⟨once, phased.1, phased.2, rfl⟩
  | saved phase =>
    rw [phase] at phased
    obtain ⟨shown, ⟨stored, cached, looked, alike⟩, rfl⟩ := phased
    refine ⟨once, ?_, shown⟩
    intro object found
    obtain rfl : cached = object := mem_unique looked found
    dsimp only
    rw [stored, map_some]
    exact ⟨_, rfl, alike.status, alike.key.trans (updatedRow_key env _ _ _), alike.several, alike.statuses⟩

structure Out (view : ChannelView) : Prop where
  row : ∀ stored, view.row = some stored → stored.status ≠ channelStatusEnabled
  listed : ∀ group model, view.listed group model = 0
  handling : ∀ usingKey status row, view.phase = .handling usingKey status row → row.status ≠ channelStatusEnabled
  saving : ∀ usingKey status row updated, view.phase = .saving usingKey status row updated →
    status ≠ channelStatusEnabled → updated.status ≠ channelStatusEnabled

theorem out_of_synced (synced : Synced env view) (idle : view.phase = .idle)
    (disabled : ∀ stored, view.row = some stored → stored.status ≠ channelStatusEnabled) : Out view where
  row := disabled
  listed group model := by
    have phased := synced.phase
    rw [idle] at phased
    by_contra listed
    obtain ⟨cached, found, enabled⟩ := phased.2 group model (Nat.pos_of_ne_zero listed)
    obtain ⟨row, stored, alike⟩ := phased.1 cached found
    exact disabled row stored (alike.status ▸ enabled)
  handling := by simp [idle]
  saving := by simp [idle]

theorem updatedRow_disabled (disabled : row.status ≠ channelStatusEnabled)
    (asked : status ≠ channelStatusEnabled) : (updatedRow env row usingKey status).status ≠ channelStatusEnabled := by
  unfold updatedRow
  split_ifs
  · obtain ⟨_, _, handled, kept | follows⟩ := handler_status env row usingKey status
    · rw [handled]
      exact kept ▸ disabled
    · rw [handled]
      exact fun enabled => asked (follows.mp enabled)
  · exact asked

theorem Step.out (step : Step env may view after) (out : Out view)
    (quiet : may channelStatusEnabled → ∀ stored, after.row = some stored →
    stored.status ≠ channelStatusEnabled) : Out after := by
  cases step with
  | elsewhere => exact out
  | refreshed _ _ unlisted =>
    refine ⟨out.row, ?_, out.handling, out.saving⟩
    intro group model
    apply unlisted
    rintro ⟨row, stored, enabled, -⟩
    exact out.row row stored enabled
  | looked => exact ⟨out.row, out.listed, by simp, by simp⟩
  | chosen => exact ⟨out.row, out.listed, by simp, by simp⟩
  | changed phase found | orphaned phase gone =>
    refine ⟨out.row, out.listed, ?_, ?_⟩
    · unfold afterChange; split_ifs <;> simp
    · unfold afterChange; split_ifs <;> simp
  | published => exact ⟨out.row, fun group model => by simp [out.listed group model], by simp, by simp⟩
  | passed => exact ⟨out.row, out.listed, by simp, by simp⟩
  | fetched _ found =>
    have disabled := out.row _ found
    refine ⟨out.row, out.listed, ?_, ?_⟩
    · dsimp only
      split_ifs
      · rintro _ _ _ same
        cases same
        exact disabled
      · simp
    · dsimp only
      split_ifs
      · simp
      · rintro _ _ _ _ same asked
        cases same
        exact updatedRow_disabled disabled asked
  | handled phase =>
    refine ⟨out.row, out.listed, by simp, ?_⟩
    rintro _ _ _ _ same asked
    cases same
    exact updatedRow_disabled (out.handling _ _ _ phase) asked
  | @saved usingKey status row updated phase allowed =>
    refine ⟨?_, out.listed, by simp, by simp⟩
    by_cases asked : status = channelStatusEnabled
    · exact quiet (asked ▸ allowed)
    · intro _ found
      obtain ⟨_, -, rfl⟩ := map_eq_some_iff.mp found
      exact out.saving usingKey status row updated phase asked

end ChannelView

/-! ## Routing -/

variable {channelIds : List ℕ+} {channel : Channel} {draw : Nat} {group model requestPath : String} {retry : Int}

theorem lookupChannels_mem {cache channels}
    (looked : lookupChannels cache channelIds = .ok channels) (mem : channel ∈ channels) : channel.id ∈ channelIds :=
  lookupChannels_ids looked ▸ List.mem_map_of_mem mem

theorem pickChannel_mem {factor adjustment channels weight}
    (picked : pickChannel factor adjustment channels weight = some channel) : channel ∈ channels := by
  induction channels generalizing weight with
  | nil => cases picked
  | cons _ _ ih =>
    unfold pickChannel at picked
    dsimp only at picked
    split_ifs at picked
    · cases picked
      exact mem_cons_self
    · exact mem_cons_of_mem _ (ih picked)

theorem drawChannel_mem {channels} (drawn : drawChannel channels draw = some channel) : channel ∈ channels := by
  unfold drawChannel at drawn
  dsimp only at drawn
  split_ifs at drawn
  · exact pickChannel_mem drawn
  · exact pickChannel_mem drawn
  · exact pickChannel_mem drawn

theorem candidateChannels_listed {env cache id}
    (candidate : id ∈ candidateChannels env cache group model requestPath) :
    ∃ name, id ∈ cache.group2model2channels group name := by
  have kept : ∀ channels : List ℕ+, id ∈ filterChannelsByRequestPathAndModel env cache channels
    requestPath model → id ∈ channels := by
    intro _ mem
    unfold filterChannelsByRequestPathAndModel at mem
    split_ifs at mem
    · exact mem
    · exact mem_of_mem_filter mem
  unfold candidateChannels at candidate
  dsimp only at candidate
  split_ifs at candidate
  · exact ⟨_, kept _ candidate⟩
  · exact ⟨_, kept _ candidate⟩

theorem targetChannels_mem {cache channels}
    (target : targetChannels cache channelIds retry = .ok channels) (mem : channel ∈ channels) :
    channel.id ∈ channelIds := by
  unfold targetChannels at target
  cases looked : lookupChannels cache channelIds with
  | error => simp [looked, bind, Except.bind] at target
  | ok all =>
    cases chosen : targetPriority all retry with
    | error => simp [looked, chosen, bind, Except.bind] at target
    | ok =>
      simp only [looked, chosen, bind, Except.bind, pure, Except.pure, Except.ok.injEq] at target
      subst target
      exact lookupChannels_mem looked (mem_of_mem_filter mem)

theorem routed_listed {env cache}
    (routed : getRandomSatisfiedChannel env cache group model retry requestPath draw = .ok (some channel)) :
    ∃ name, channel.id ∈ cache.group2model2channels group name := by
  suffices candidate : channel.id ∈ candidateChannels env cache group model
    requestPath from candidateChannels_listed candidate
  unfold getRandomSatisfiedChannel at routed
  cases shape : candidateChannels env cache group model requestPath with
  | nil => simp [shape, pure, Except.pure] at routed
  | cons first others =>
    cases others with
    | nil =>
      cases looked : lookupChannels cache [first] with
      | error => simp [shape, looked, bind, Except.bind] at routed
      | ok =>
        simp only [shape, looked, bind, Except.bind, pure, Except.pure, Except.ok.injEq] at routed
        exact lookupChannels_mem looked (mem_of_mem_head? routed)
    | cons second rest =>
      cases target : targetChannels cache (first :: second :: rest) retry with
      | error => simp [shape, target, bind, Except.bind] at routed
      | ok channels =>
        cases drawn : drawChannel channels draw with
        | none => simp [shape, target, drawn, bind, Except.bind, throw, throwThe, MonadExceptOf.throw] at routed
        | some =>
          simp only [shape, target, drawn, bind, Except.bind, pure, Except.pure, Except.ok.injEq, some.injEq] at routed
          subst routed
          exact targetChannels_mem target (drawChannel_mem drawn)

section Runs
variable {env : ChannelEnv} {id : ℕ+} {db : ChannelDb}

def Disabled (id : ℕ+) (node : ChannelNode) : Prop := ∀ row ∈ node.db.channels.find? id,
    row.status ≠ channelStatusEnabled

instance (id : ℕ+) (node : ChannelNode) : Decidable (Disabled id node) :=
  inferInstanceAs (Decidable (∀ row ∈ node.db.channels.find? id, row.status ≠ channelStatusEnabled))

def KeepsDisabled (env : ChannelEnv) (id : ℕ+) (node : ChannelNode) (event : NodeEvent) : Prop :=
  asks id node event channelStatusEnabled = true → Disabled id (node.step env event)

instance (env : ChannelEnv) (id : ℕ+) (node : ChannelNode) (event : NodeEvent) :
    Decidable (KeepsDisabled env id node event) :=
  inferInstanceAs (Decidable (_ → _))

def returns (env : ChannelEnv) (id : ℕ+) (node : ChannelNode) (thread : Nat) : Bool :=
  match node.threads thread with
  | some ⟨.updateStatus channelId _ _, stage⟩ =>
    channelId = id && !hasReturned stage && ((node.advance env thread).threads thread).any
      fun state => hasReturned state.stage
  | _ => false

variable {node : ChannelNode} {thread : Nat} {event : NodeEvent}

theorem of_returns {env id} (ret : returns env id node thread = true) :
    (∃ usingKey status stage, node.threads thread = some ⟨.updateStatus id usingKey status, stage⟩ ∧
      hasReturned stage = false) ∧
      ∃ state, (node.advance env thread).threads thread = some state ∧ hasReturned state.stage = true := by
  unfold returns at ret
  split at ret
  · rename_i channelId usingKey status stage found
    simp only [Bool.and_eq_true, decide_eq_true_eq, Bool.not_eq_true', Option.any_eq_true] at ret
    obtain ⟨⟨rfl, before⟩, after⟩ := ret
    exact ⟨⟨usingKey, status, stage, found, before⟩, after⟩
  · cases ret

def served (env : ChannelEnv) (db : ChannelDb) (events : List NodeEvent) : ChannelNode :=
  run (step env) (.init true db .empty) events

theorem init_orderly : NodeOrderly (.init true db .empty) := ⟨rfl, by simp [init], by simp [init]⟩

theorem init_synced : ChannelView.Synced env (viewOf id (.init true db .empty)) := by
  refine ⟨fun _ _ => Nat.zero_le _, ?_, ?_⟩
  · intro _ found
    cases found
  · intro _ _ listed
    cases listed

theorem served_snoc (events event) : served env db (events ++ [event]) = (served env db events).step env event := by
  rw [served, run_append]
  rfl

def InSync (env : ChannelEnv) (id : ℕ+) (node : ChannelNode) :
    Prop := NodeOrderly node ∧ ChannelView.Synced env (viewOf id node)

def TakenOut (id : ℕ+) (node : ChannelNode) : Prop := NodeOrderly node ∧ ChannelView.Out (viewOf id node)

theorem inSync_step (inSync : InSync env id node) (keeps : keepsRouting id node event = true) :
    InSync env id (node.step env event) := by
  obtain ⟨orderly, step⟩ := node_step inSync.1 keeps
  exact ⟨orderly, step.synced inSync.2⟩

theorem takenOut_step (out : TakenOut id node)
    (allowed : keepsRouting id node event = true ∧ KeepsDisabled env id node event) :
    TakenOut id (node.step env event) := by
  obtain ⟨orderly, step⟩ := node_step out.1 allowed.1
  exact ⟨orderly, step.out out.2 fun asked stored found => allowed.2 asked stored found⟩

theorem served_inSync {events}
    (keeps : Along (step env) (fun node event => keepsRouting id node event = true) (.init true db .empty) events) :
    InSync env id (served env db events) :=
  run_invariant (fun _ _ => inSync_step) ⟨init_orderly, init_synced⟩ keeps

theorem returns_idle (orderly : NodeOrderly node) (ret : returns env id node thread = true) :
    statusPhase id (node.advance env thread) = .idle := by
  obtain ⟨⟨usingKey, status, stage, found, before⟩, _, after, ret⟩ := of_returns ret
  have advanced : node.advance env thread = node.updateStatusStep env thread
    (.updateStatus id usingKey status) id usingKey status stage := by
    simp only [advance, found]
  have move : StatusMove env node thread id usingKey status stage (node.advance env thread) :=
    advanced ▸ update_cases orderly found
  generalize node.advance env thread = next at move after
  cases move with
  | waits =>
    obtain rfl := mem_unique found after
    rw [before] at ret
    cases ret
  | moves moved _ lock =>
    rw [moved.threads, Function.update_self] at after
    obtain rfl := some.inj after
    rcases lock with mine | ⟨free, -⟩
    · rw [phase_of_holder moved mine, threadPhase, if_pos rfl]
      cases ‹NodeStage› <;> first | rfl | cases ret
    · exact phase_of_free free

theorem disabled_not_routed (env : ChannelEnv) (db : ChannelDb) (id : ℕ+) (first second : List NodeEvent) (thread : Nat)
    (keeps : Along (step env) (fun node event => keepsRouting id node event = true) (.init true db .empty)
      (first ++ .advance thread :: second))
    (returned : returns env id (served env db first) thread = true)
    (disabled : Disabled id (served env db (first ++ [.advance thread])))
    (quiet : Along (step env) (KeepsDisabled env id) (served env db (first ++ [.advance thread])) second)
    (group model : String) (retry : Int) (requestPath : String) (draw : Nat) :
    ∀ channel, getRandomSatisfiedChannel env (served env db
      (first ++ .advance thread :: second)).cache group model retry requestPath draw =
      .ok (some channel) → channel.id ≠ id := by
  obtain ⟨before, rest⟩ := along_append.mp keeps
  have inSync := served_inSync before
  -- When the call returns, the object and the row are alike again.
  rw [served_snoc] at disabled quiet
  have out : TakenOut id ((served env db first).step env (.advance thread)) := by
    obtain ⟨orderly, synced⟩ := inSync_step inSync rest.1
    exact ⟨orderly, ChannelView.out_of_synced synced (returns_idle inSync.1 returned) disabled⟩
  have still : TakenOut id (run (step env) _ second) :=
    run_invariant (fun _ _ => takenOut_step) out (along_and rest.2 quiet)
  intro _ routed
  obtain ⟨name, listed⟩ := routed_listed routed
  rintro rfl
  have none_listed := still.2.listed group name
  rw [served, run_append] at listed
  exact count_eq_zero.mp none_listed listed

end Runs

def servingDb (group key : String) (info : ChannelInfo) : ChannelDb :=
  administer {} emptyDb [.insert { id := Nat.toPNat' 1, key := key, status := 1, models := "o", group := group, channelInfo := info } (Nat.toPNat' 1)]

def refreshOn (thread : Nat) : List NodeEvent := .call thread .refresh :: replicate 3 (.advance thread)

def statusOn (thread : Nat) (usingKey : String) (status : Int) (steps : Nat) : List NodeEvent :=
  .call thread (.updateStatus (Nat.toPNat' 1) usingKey status) :: replicate steps (.advance thread)

theorem disabled_not_routed_refreshed :
    Disabled 1 (served {} (servingDb "default" "" {}) (refreshOn 0 ++ statusOn 1 "" 3 4 ++ [.advance 1])) ∧ ∀ channel,
      getRandomSatisfiedChannel {} (served {} (servingDb "default" "" {}) (refreshOn 0 ++ statusOn 1 "" 3 4 ++ .advance 1 :: refreshOn 2)).cache
        "default" "o" 0 "" 0 = .ok (some channel) → channel.id ≠ 1 :=
  ⟨by decide +kernel, disabled_not_routed {} (servingDb "default" "" {}) 1 (refreshOn 0 ++ statusOn 1 "" 3 4) (refreshOn 2) 1 (by decide +kernel)
    (by decide +kernel) (by decide +kernel) (by decide +kernel) "default" "o" 0 "" 0⟩

def RoutedDisabled (db : ChannelDb) (first : List NodeEvent) (thread : Nat) (second : List NodeEvent) : Prop :=
  returns {} (Nat.toPNat' 1) (served {} db first) thread = true ∧
    Disabled (Nat.toPNat' 1) (served {} db (first ++ [.advance thread])) ∧
    Along (step {}) (KeepsDisabled {} (Nat.toPNat' 1)) (served {} db (first ++ [.advance thread])) second ∧
    ((getRandomSatisfiedChannel {} (served {} db (first ++ .advance thread :: second)).cache
      "default" "o" 0 "" 0).toOption.join.map
      (·.id)) = some (Nat.toPNat' 1)

instance (db : ChannelDb) (first : List NodeEvent) (thread : Nat) (second : List NodeEvent) :
    Decidable (RoutedDisabled db first thread second) :=
  inferInstanceAs (Decidable (_ ∧ _ ∧ _ ∧ _))

theorem disabled_routed : RoutedDisabled (servingDb "default,default" "" {}) (refreshOn 0 ++ statusOn 1 "" 3 4) 1 [] ∧
    RoutedDisabled (servingDb "default" "" {}) (refreshOn 0 ++ [.call 2 .refresh, .advance 2, .advance 2] ++ statusOn 1 "" 3 4) 1
      [.advance 2] ∧
    RoutedDisabled (servingDb "default" "a\nb" { isMultiKey := true, multiKeySize := 2 })
      (refreshOn 0 ++ statusOn 1 "a" 3 5 ++ statusOn 2 "a" 1 3 ++ statusOn 3 "b" 3 5) 3 [] := by
  decide +kernel

end NewApi.Proof
