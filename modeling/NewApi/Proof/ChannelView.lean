import NewApi.Proof.ChannelRows
import NewApi.Proof.ChannelSelectors

/-! # One channel of a node -/

namespace NewApi.Proof
open Library Model ChannelNode Table

/-! ## One channel -/

inductive StatusPhase where
  | idle
  | changing (usingKey : String) (status : Int) (object : Channel) (generation : Nat)
  | publishing (usingKey : String) (status : Int) (published : Int)
  | fetching (usingKey : String) (status : Int)
  | handling (usingKey : String) (status : Int) (row : Channel)
  | saving (usingKey : String) (status : Int) (row updated : Channel)

def stagePhase (usingKey : String) (status : Int) : NodeStage → StatusPhase
  | .changing object generation => .changing usingKey status object generation
  | .publishing published => .publishing usingKey status published
  | .fetching => .fetching usingKey status
  | .handling row => .handling usingKey status row
  | .saving row updated => .saving usingKey status row updated
  | _ => .idle

def threadPhase (id : ℕ+) : Option NodeThread → StatusPhase
  | some ⟨.updateStatus channelId usingKey status, stage⟩ =>
      if channelId = id then stagePhase usingKey status stage else .idle
  | _ => .idle

def statusPhase (id : ℕ+) (node : ChannelNode) : StatusPhase :=
    threadPhase id (node.channelStatusLock.bind node.threads)

structure ChannelView where
  (row object : Option Channel)
  listed : String → String → Nat
  generation : Nat
  phase : StatusPhase

def viewOf (id : ℕ+) (node : ChannelNode) : ChannelView where
  row := node.db.channels.find? id
  object := node.cache.channelsIDM.find? id
  listed group model := (node.cache.group2model2channels group model).count id
  generation := node.cache.generation
  phase := statusPhase id node

namespace ChannelView

def lists (row : Option Channel) (group model : String) : Prop :=
  ∃ channel, row = some channel ∧ channel.status = channelStatusEnabled ∧
    group ∈ channel.groupNames ∧ model ∈ channel.modelNames

def afterChange (usingKey : String) (status : Int) (before after : Channel) : StatusPhase :=
  if before.status ≠ after.status then .publishing usingKey status after.status else .fetching usingKey status

inductive Step (env : ChannelEnv) (may : Int → Prop) : ChannelView → ChannelView → Prop
  | elsewhere (view : ChannelView) : Step env may view view
  | refreshed {view listed} (old : Table Channel.id) (idle : view.phase = .idle)
      (unlisted : ∀ group model, ¬lists view.row group model → listed group model = 0)
      (once : ∀ group model, listed group model ≤ 1) : Step env may view { view with
        object := view.row.map (keepPollingIndex old), listed := listed, generation := view.generation + 1 }
  | looked {view usingKey status object} (idle : view.phase = .idle)
      (found : view.object = some object) (several : object.channelInfo.isMultiKey = true) :
      Step env may view { view with phase := .changing usingKey status object view.generation }
  | chosen {view usingKey status object} (idle : view.phase = .idle)
      (found : view.object = some object) (single : object.channelInfo.isMultiKey = false)
        (other : object.status ≠ status) :
      Step env may view { view with phase := .publishing usingKey status status }
  | changed {view usingKey status object current}
      (phase : view.phase = .changing usingKey status object view.generation) (found : view.object = some current) :
      Step env may view { view with
        object := some (handlerMultiKeyUpdate env current usingKey status)
        phase := afterChange usingKey status object (handlerMultiKeyUpdate env current usingKey status) }
  | orphaned {view usingKey status object generation}
      (phase : view.phase = .changing usingKey status object generation)
        (gone : view.generation ≠ generation ∨ view.object = none) :
      Step env may view { view with
        phase := afterChange usingKey status object (handlerMultiKeyUpdate env object usingKey status) }
  | published {view usingKey status published} (phase : view.phase = .publishing usingKey status published) :
      Step env may view { view with
        object := view.object.map fun object => { object with status := published }
        listed := fun group model => if published = channelStatusEnabled then view.listed group
          model else view.listed group model - 1
        phase := .fetching usingKey status }
  | passed {view usingKey status} (phase : view.phase = .fetching usingKey status)
      (same : ∀ row, view.row = some row → row.status = status ∧ row.channelInfo.isMultiKey = false) :
      Step env may view { view with phase := .idle }
  | fetched {view : ChannelView} {usingKey} {status : Int} {row : Channel}
      (phase : view.phase = .fetching usingKey status)
      (found : view.row = some row) (other : row.status ≠ status) : Step env may view { view with
        phase := if row.channelInfo.isMultiKey then .handling usingKey status row
          else .saving usingKey status row (updatedRow env row usingKey status) }
  | handled {view usingKey status row} (phase : view.phase = .handling usingKey status row) :
      Step env may view { view with phase := .saving usingKey status row (updatedRow env row usingKey status) }
  | saved {view usingKey status row updated} (phase : view.phase =
      .saving usingKey status row updated) (allowed : may status) :
      Step env may view { view with row := view.row.map fun old =>
        { updated with id := old.id, key := old.key }, phase := .idle }

end ChannelView

/-! ## What a step does to the channel -/

def inFlight : NodeStage → Bool
  | .start | .returned _ => false
  | _ => true

def stageNames (channelId : ℕ+) : NodeStage → Prop
  | .changing object _ => object.id = channelId
  | .handling row => row.id = channelId
  | .saving _ updated => updated.id = channelId
  | _ => True

def ThreadPlaced (held : Prop) : NodeThread → Prop
  | ⟨.refresh, _⟩ => ¬held
  | ⟨.updateStatus channelId _ _, stage⟩ => (inFlight stage = true → held) ∧ stageNames channelId stage
  | _ => False

structure NodeOrderly (node : ChannelNode) : Prop where
  cached : node.memoryCacheEnabled = true
  placed : ∀ thread state, node.threads thread = some state → ThreadPlaced (node.channelStatusLock = some thread) state
  held : ∀ thread, node.channelStatusLock = some thread → node.threads thread ≠ none

def StatusPhase.isIdle : StatusPhase → Bool
  | .idle => true
  | _ => false

theorem StatusPhase.isIdle_eq {phase : StatusPhase} (idle : phase.isIdle = true) : phase = .idle := by
  cases phase <;> first | rfl | cases idle

/-- The refresh under way read the current row, no call is between object and row, no group or model
is repeated, and a call for several keys asks for another status than the stored one. -/
def keepsRouting (id : ℕ+) (node : ChannelNode) : NodeEvent → Bool
  | .call _ .refresh => true
  | .call _ (.updateStatus _ _ _) => true
  | .advance thread =>
    match node.threads thread with
    | some ⟨.refresh, .abilitiesRead channels _⟩ =>
      (statusPhase id node).isIdle && channels.find? id = node.db.channels.find? id &&
        (channels.find? id).all fun row => decide row.groupNames.Nodup && decide row.modelNames.Nodup
    | some ⟨.updateStatus channelId _ status, .fetching⟩ =>
      channelId ≠ id || (node.db.channels.find? id).all fun row => !row.channelInfo.isMultiKey || row.status ≠ status
    | _ => true
  | _ => false

def asks (id : ℕ+) (node : ChannelNode) (event : NodeEvent) (asked : Int) : Bool :=
  match event with
  | .advance thread =>
    match node.threads thread with
    | some ⟨.updateStatus channelId _ status, _⟩ => channelId = id && status = asked
    | _ => false
  | _ => false

section NodeMoves
variable {node after : ChannelNode} {thread : Nat} {state : NodeThread} {id : ℕ+}

structure Moved (node after : ChannelNode) (thread : Nat) (state : NodeThread) : Prop where
  cached : after.memoryCacheEnabled = node.memoryCacheEnabled
  threads : after.threads = Function.update node.threads thread (some state)
  locks : ∀ other, other ≠ thread → (after.channelStatusLock = some other ↔ node.channelStatusLock = some other)

theorem NodeOrderly.moved (orderly : NodeOrderly node) (moved : Moved node after thread state)
    (placed : ThreadPlaced (after.channelStatusLock = some thread) state) : NodeOrderly after where
  cached := moved.cached.trans orderly.cached
  placed other current found := by
    rw [moved.threads] at found
    by_cases same : other = thread
    · subst same
      rw [Function.update_self] at found
      cases found
      exact placed
    · rw [Function.update_of_ne same] at found
      rw [moved.locks other same]
      exact orderly.placed other current found
  held other locked := by
    rw [moved.threads]
    by_cases same : other = thread
    · subst same
      simp
    · rw [Function.update_of_ne same]
      exact orderly.held other ((moved.locks other same).mp locked)

theorem goTo_moved (node) (thread : Nat) (call stage) : Moved node (node.goTo thread call stage) thread ⟨call, stage⟩ :=
  ⟨rfl, rfl, fun _ _ => Iff.rfl⟩

theorem finish_moved (node) (thread : Nat) (call) (result : Bool) :
    Moved node (node.finish thread call result) thread ⟨call, .returned result⟩ where
  cached := rfl
  threads := rfl
  locks other ne := by
    show (if node.channelStatusLock = some thread then none else node.channelStatusLock) = some other ↔ _
    split_ifs with mine
    · simp [mine, Ne.symm ne]
    · rfl

theorem phase_of_holder (moved : Moved node after thread state) (mine : after.channelStatusLock = some thread) :
    statusPhase id after = threadPhase id (some state) := by
  simp [statusPhase, mine, moved.threads]

theorem phase_of_other (moved : Moved node after thread state) (same : after.channelStatusLock = node.channelStatusLock)
    (other : node.channelStatusLock ≠ some thread) : statusPhase id after = statusPhase id node := by
  unfold statusPhase
  rw [same]
  cases holder : node.channelStatusLock with
  | none => rfl
  | some current =>
    have ne : current ≠ thread := by
      rintro rfl
      exact other holder
    simp [moved.threads, Function.update_of_ne ne]

theorem phase_of_free (free : node.channelStatusLock = none) : statusPhase id node = .idle := by
  simp [statusPhase, free, threadPhase]

theorem view_eq (row : after.db.channels.find? id = node.db.channels.find? id)
    (object : after.cache.channelsIDM.find? id = node.cache.channelsIDM.find? id)
    (listed : ∀ group model, (after.cache.group2model2channels group model).count id =
    (node.cache.group2model2channels group model).count id)
    (generation : after.cache.generation = node.cache.generation) (phase : statusPhase id after = statusPhase id node) :
    viewOf id after = viewOf id node := by
  simp only [viewOf, row, object, listed, generation, phase]

end NodeMoves

/-! A refresh lists an enabled channel once in each of its pairs. -/

variable {group model : String}

theorem count_entries {channel : Channel} (groups : channel.groupNames.Nodup) (models : channel.modelNames.Nodup)
    (id : ℕ+) : (channel.entries group model).count id ≤ 1 := by
  have pairs : channel.groupPairs.Nodup := List.Nodup.product groups models
  calc (channel.entries group model).count id ≤ (channel.entries group model).length := List.count_le_length
    _ = channel.groupPairs.count (group, model) := by
        simp [Channel.entries, List.count, List.countP_eq_length_filter, beq_eq_decide]
    _ ≤ 1 := List.nodup_iff_count_le_one.mp pairs _

theorem count_flatMap_entries {rows : List Channel} {id : ℕ+} (unique : (rows.map Channel.id).Nodup)
    (once : ∀ channel ∈ rows, channel.id = id → (channel.entries group model).count id ≤ 1) :
    (rows.flatMap fun channel => channel.entries group model).count id ≤ 1 := by
  induction rows with
  | nil => simp
  | cons channel rest ih =>
    obtain ⟨fresh, unique⟩ := List.nodup_cons.mp unique
    rw [List.flatMap_cons, List.count_append]
    by_cases same : channel.id = id
    · have none_left : (rest.flatMap fun channel => channel.entries group model).count id = 0 := by
        rw [List.count_eq_zero, List.mem_flatMap]
        rintro ⟨other, mem, entry⟩
        have named := (mem_entries.mp entry).1
        exact fresh (List.mem_map.mpr ⟨other, mem, by rw [same, named]⟩)
      rw [none_left]
      exact once channel (by simp) same
    · have none_here : (channel.entries group model).count id = 0 := by
        rw [List.count_eq_zero]
        intro entry
        exact same (mem_entries.mp entry).1.symm
      rw [none_here, Nat.zero_add]
      exact ih unique fun other mem => once other (by simp [mem])

theorem count_indexChannels {channels : Table Channel.id} {id : ℕ+}
    (named : ∀ row, channels.find? id = some row → row.groupNames.Nodup ∧ row.modelNames.Nodup) (group model : String) :
    (indexChannels channels group model).count id ≤ 1 := by
  rw [indexChannels, (List.perm_insertionSort _ _).count_eq]
  apply count_flatMap_entries (channels.filter _).unique
  intro channel mem same
  obtain ⟨groups, models⟩ := named channel (find?_eq_some.mpr ⟨(mem_filter.mp mem).1, same⟩)
  exact count_entries groups models id

theorem lists_of_mem {channels id} (listed : id ∈ indexChannels channels group model) :
    ChannelView.lists (channels.find? id) group model := by
  have served := (mem_indexChannels : id ∈ indexChannels (⟨channels, empty⟩ : ChannelDb).channels
    group model ↔ _).mp listed
  obtain ⟨channel, mem, rfl⟩ := served
  obtain ⟨stored, enabled, names⟩ := mem_serving.mp mem
  exact ⟨channel, find?_eq_some.mpr ⟨stored, rfl⟩, enabled, names⟩

section Steps
variable {env : ChannelEnv} {may : Int → Prop} {node : ChannelNode} {thread : Nat} {id : ℕ+}

theorem elsewhere_of_eq {after} (same : viewOf id after = viewOf id node) :
    ChannelView.Step env may (viewOf id node) (viewOf id after) := by
  rw [same]
  exact .elsewhere _

theorem refresh_step {stage : NodeStage} (orderly : NodeOrderly node)
    (found : node.threads thread = some ⟨.refresh, stage⟩)
    (keeps : keepsRouting id node (.advance thread) = true) : NodeOrderly (node.refreshStep thread .refresh stage) ∧
      ChannelView.Step env may (viewOf id node) (viewOf id (node.refreshStep thread .refresh stage)) := by
  have other : node.channelStatusLock ≠ some thread := orderly.placed thread _ found
  have goes : ∀ stage, NodeOrderly (node.goTo thread .refresh stage) ∧
      ChannelView.Step env may (viewOf id node) (viewOf id (node.goTo thread .refresh stage)) := by
    intro stage
    have moved := goTo_moved node thread .refresh stage
    exact ⟨orderly.moved moved other, elsewhere_of_eq (view_eq rfl rfl (fun _ _ => rfl) rfl
      (phase_of_other moved rfl other))⟩
  cases stage with
  | start =>
    simp only [refreshStep, orderly.cached, if_true]
    exact goes _
  | channelsRead => exact goes _
  | abilitiesRead channels =>
    simp only [keepsRouting, found, Bool.and_eq_true, decide_eq_true_eq, Option.all_eq_true] at keeps
    obtain ⟨⟨idle, current⟩, named⟩ := keeps
    replace idle := StatusPhase.isIdle_eq idle
    simp only [refreshStep]
    split_ifs
    · have moved := finish_moved node thread .refresh false
      have lock : (node.finish thread .refresh false).channelStatusLock = node.channelStatusLock := if_neg other
      exact ⟨orderly.moved moved (by rw [lock]; exact other),
        elsewhere_of_eq (view_eq rfl rfl (fun _ _ => rfl) rfl (phase_of_other moved lock other))⟩
    · let swapped : ChannelNode := { node with cache := node.cache.swap channels }
      have kept : NodeOrderly swapped := ⟨orderly.cached, orderly.placed, orderly.held⟩
      have moved := finish_moved swapped thread .refresh true
      have lock : (swapped.finish thread .refresh true).channelStatusLock = node.channelStatusLock := if_neg other
      have phase : statusPhase id (swapped.finish thread .refresh true) = .idle :=
        (phase_of_other moved lock other).trans idle
      refine ⟨kept.moved moved (by rw [lock]; exact other), ?_⟩
      have object : (swapped.finish thread .refresh true).cache.channelsIDM.find? id =
          (node.db.channels.find? id).map (keepPollingIndex node.cache.channelsIDM) := by
        rw [← current]
        exact find?_modify _ (keepPollingIndex_id _)
      have view : viewOf id (swapped.finish thread .refresh true) = { viewOf id node with
          object := (viewOf id node).row.map (keepPollingIndex node.cache.channelsIDM)
          listed := fun group model => (indexChannels channels group model).count id
          generation := (viewOf id node).generation + 1 } := by
        simp only [viewOf, object, phase, idle]
        rfl
      rw [view]
      apply ChannelView.Step.refreshed
      · exact idle
      · intro group model unlisted
        rw [List.count_eq_zero]
        intro listed
        apply unlisted
        show ChannelView.lists (node.db.channels.find? id) group model
        rw [← current]
        exact lists_of_mem listed
      · exact count_indexChannels named
  | _ => exact ⟨orderly, .elsewhere _⟩

/-! ### Calls that change a status -/

theorem currentObject_id (node : ChannelNode) (object : Channel) (generation : Nat) :
    (node.currentObject object generation).id = object.id := by
  unfold currentObject
  split_ifs
  · cases found : node.cache.channelsIDM.find? object.id with
    | none => rfl
    | some => exact (find?_eq_some.mp found).2
  · rfl

section Update
variable {channelId : ℕ+} {usingKey : String} {status : Int} {stage : NodeStage}

inductive StatusWrites (env : ChannelEnv) (node : ChannelNode) (channelId : ℕ+) (usingKey : String) (status : Int) :
    NodeStage → NodeStage → Table Channel.id → ChannelCache → Prop
  | refused (result : Bool) : StatusWrites env node channelId usingKey status .start
      (.returned result) node.db.channels node.cache
  | looked {object} (found : node.cache.channelsIDM.find? channelId = some object)
      (several : object.channelInfo.isMultiKey = true) :
      StatusWrites env node channelId usingKey status .start
        (.changing object node.cache.generation) node.db.channels node.cache
  | chosen {object} (found : node.cache.channelsIDM.find? channelId = some object)
      (single : object.channelInfo.isMultiKey = false) (other : object.status ≠ status) :
      StatusWrites env node channelId usingKey status .start (.publishing status) node.db.channels node.cache
  | changed (object : Channel) (generation : Nat) : StatusWrites env node channelId usingKey status
      (.changing object generation)
        (if object.status ≠ (handlerMultiKeyUpdate env (node.currentObject object generation)
          usingKey status).status then
          .publishing (handlerMultiKeyUpdate env (node.currentObject object generation) usingKey
            status).status else .fetching)
        node.db.channels
          (node.changeObject generation (handlerMultiKeyUpdate env
          (node.currentObject object generation) usingKey status)).cache
  | published (reached : Int) : StatusWrites env node channelId usingKey status
      (.publishing reached) .fetching node.db.channels
        (cacheUpdateChannelStatus channelId reached node.cache)
  | passed (result : Bool) (same : ∀ row, node.db.channels.find? channelId = some row → row.status = status) :
      StatusWrites env node channelId usingKey status .fetching (.returned result) node.db.channels node.cache
  | fetched {row} (found : node.db.channels.find? channelId = some row) (other : row.status ≠ status) :
      StatusWrites env node channelId usingKey status .fetching
        (if row.channelInfo.isMultiKey then .handling row else .saving row (updatedRow env row usingKey status))
        node.db.channels node.cache
  | handled (row : Channel) :
      StatusWrites env node channelId usingKey status (.handling row) (.saving row (updatedRow env row usingKey status))
        node.db.channels node.cache
  | saved (row updated : Channel) {next} (done : stagePhase usingKey status next = .idle) :
      StatusWrites env node channelId usingKey status (.saving row updated) next
        (saveWithoutKey updated node.db.channels) node.cache
  | ruled : StatusWrites env node channelId usingKey status .ruling (.returned true) node.db.channels node.cache

inductive StatusMove (env : ChannelEnv) (node : ChannelNode) (thread : Nat) (channelId : ℕ+)
    (usingKey : String) (status : Int)
    (stage : NodeStage) : ChannelNode → Prop
  | waits : StatusMove env node thread channelId usingKey status stage node
  | moves {after next} (moved : Moved node after thread ⟨.updateStatus channelId usingKey status, next⟩)
      (before : node.channelStatusLock = some thread ∨ node.channelStatusLock = none ∧ stage = .start)
      (lock : after.channelStatusLock = some thread ∨ after.channelStatusLock = none ∧
        ∃ result, next = .returned result)
      (named : stageNames channelId next) (writes : StatusWrites env node channelId usingKey status
        stage next after.db.channels after.cache) :
      StatusMove env node thread channelId usingKey status stage after

structure Holding (node base : ChannelNode) (thread : Nat) (stage : NodeStage) : Prop where
  cached : base.memoryCacheEnabled = node.memoryCacheEnabled
  threads : base.threads = node.threads
  before : node.channelStatusLock = some thread ∨ node.channelStatusLock = none ∧ stage = .start
  mine : base.channelStatusLock = some thread

variable {base : ChannelNode} {next : NodeStage}

theorem Holding.locks (holding : Holding node base thread stage) {other} (ne : other ≠ thread) :
    base.channelStatusLock = some other ↔ node.channelStatusLock = some other := by
  rcases holding.before with mine | ⟨free, -⟩
  · rw [mine, holding.mine]
  · simp [free, holding.mine, Ne.symm ne]

theorem status_goes (holding : Holding node base thread stage) (named : stageNames channelId next)
    (writes : StatusWrites env node channelId usingKey status stage next base.db.channels base.cache) :
    StatusMove env node thread channelId usingKey status stage
      (base.goTo thread (.updateStatus channelId usingKey status) next) := by
  have moved := goTo_moved base thread (.updateStatus channelId usingKey status) next
  refine .moves ⟨moved.cached.trans holding.cached, ?_, ?_⟩ holding.before (.inl holding.mine) named writes
  · rw [moved.threads, holding.threads]
  · exact fun _ ne => holding.locks ne

theorem status_returns {result} (holding : Holding node base thread stage)
    (writes : StatusWrites env node channelId usingKey status stage (.returned result) base.db.channels base.cache) :
    StatusMove env node thread channelId usingKey status stage
      (base.finish thread (.updateStatus channelId usingKey status) result) := by
  have moved := finish_moved base thread (.updateStatus channelId usingKey status) result
  refine .moves ⟨moved.cached.trans holding.cached, ?_, ?_⟩ holding.before
    (.inr ⟨if_pos holding.mine, result, rfl⟩) trivial writes
  · rw [moved.threads, holding.threads]
  · exact fun other ne => (moved.locks other ne).trans (holding.locks ne)

theorem update_cases (orderly : NodeOrderly node) (found : node.threads thread =
    some ⟨.updateStatus channelId usingKey status, stage⟩) :
    StatusMove env node thread channelId usingKey status stage
      (node.updateStatusStep env thread (.updateStatus channelId usingKey status) channelId usingKey status stage) := by
  obtain ⟨flying, named⟩ : (inFlight stage = true → node.channelStatusLock = some thread) ∧
    stageNames channelId stage :=
    orderly.placed thread _ found
  have here : inFlight stage = true → Holding node node thread stage := fun flies =>
    ⟨rfl, rfl, .inl (flying flies), flying flies⟩
  cases stage with
  | start =>
    cases free : node.channelStatusLock with
    | some =>
      rw [updateStatusStep, if_neg (by simp [orderly.cached]), free]
      exact .waits
    | none =>
      have holding : Holding node { node with channelStatusLock := some thread } thread .start :=
        ⟨rfl, rfl, .inr ⟨free, rfl⟩, rfl⟩
      rw [updateStatusStep, if_neg (by simp [orderly.cached]), free]
      dsimp only
      cases looked : node.cache.channelsIDM.find? channelId with
      | none => exact status_returns ⟨rfl, rfl, holding.before, rfl⟩ (.refused false)
      | some =>
        dsimp only
        split_ifs with several same
        · exact status_goes holding (find?_eq_some.mp looked).2 (.looked looked several)
        · exact status_returns ⟨rfl, rfl, holding.before, rfl⟩ (.refused false)
        · exact status_goes holding trivial (.chosen looked (by simpa using several) same)
  | changing object generation =>
    rw [updateStatusStep]
    cases node.pollingLocks channelId with
    | some => exact .waits
    | none =>
      have kept : ∀ changed, Holding node (node.changeObject generation changed) thread (.changing object generation) ∧
          (node.changeObject generation changed).db = node.db := by
        intro changed
        unfold changeObject
        split_ifs
        · exact ⟨⟨rfl, rfl, .inl (flying rfl), flying rfl⟩, rfl⟩
        · exact ⟨here rfl, rfl⟩
      refine status_goes (kept _).1 ?_ ?_
      · split_ifs <;> trivial
      · rw [(kept _).2]
        exact .changed object generation
  | publishing published => exact status_goes ⟨rfl, rfl, .inl (flying rfl), flying rfl⟩ trivial (.published published)
  | fetching =>
    rw [updateStatusStep]
    cases stored : node.db.channels.find? channelId with
    | none => exact status_returns ⟨rfl, rfl, .inl (flying rfl), flying rfl⟩ (.passed false (by simp [stored]))
    | some row =>
      have row_id := (find?_eq_some.mp stored).2
      dsimp only
      split_ifs with same several
      · exact status_returns ⟨rfl, rfl, .inl (flying rfl), flying rfl⟩ (.passed false (by simp [stored, same]))
      · have writes : StatusWrites env node channelId usingKey status .fetching _ _ _ := .fetched stored same
        rw [if_pos several] at writes
        exact status_goes (here rfl) row_id writes
      · have writes : StatusWrites env node channelId usingKey status .fetching _ _ _ := .fetched stored same
        rw [if_neg several] at writes
        exact status_goes (here rfl) ((updatedRow_id env row usingKey status).trans row_id) writes
  | handling row =>
    rw [updateStatusStep]
    cases node.pollingLocks channelId with
    | some => exact .waits
    | none => exact status_goes (here rfl) ((updatedRow_id env row usingKey status).trans named) (.handled row)
  | saving row updated =>
    rw [updateStatusStep]
    dsimp only
    split_ifs
    · exact status_goes ⟨rfl, rfl, .inl (flying rfl), flying rfl⟩ trivial (.saved row updated rfl)
    · exact status_returns ⟨rfl, rfl, .inl (flying rfl), flying rfl⟩ (.saved row updated rfl)
  | ruling => exact status_returns ⟨rfl, rfl, .inl (flying rfl), flying rfl⟩ .ruled
  | _ => exact .waits

theorem StatusMove.orderly {after} (orderly : NodeOrderly node)
    (move : StatusMove env node thread channelId usingKey status stage after) : NodeOrderly after := by
  cases move with
  | waits => exact orderly
  | moves moved _ lock named =>
    refine orderly.moved moved ⟨fun flies => ?_, named⟩
    rcases lock with mine | ⟨-, result, rfl⟩
    · exact mine
    · simp [inFlight] at flies

theorem find?_cacheUpdateChannelStatus (reached : Int) (cache) :
    (cacheUpdateChannelStatus channelId reached cache).channelsIDM.find? id =
      if id = channelId then (cache.channelsIDM.find? id).map fun channel => { channel with status := reached }
      else cache.channelsIDM.find? id :=
  find?_updateWhere channelId (fun channel : Channel => { channel with status := reached }) fun _ => rfl

theorem StatusWrites.elsewhere {channels cache}
    (writes : StatusWrites env node channelId usingKey status stage next channels cache)
    (named : stageNames channelId stage) (other : channelId ≠ id) :
    channels.find? id = node.db.channels.find? id ∧ cache.channelsIDM.find? id = node.cache.channelsIDM.find? id ∧
      (∀ group model, (cache.group2model2channels group model).count id =
        (node.cache.group2model2channels group model).count id) ∧
      cache.generation = node.cache.generation := by
  cases writes with
  | changed =>
    unfold changeObject
    split_ifs
    · refine ⟨rfl, ?_, fun _ _ => rfl, rfl⟩
      rw [find?_save, if_neg]
      rw [handler_id, currentObject_id, named]
      exact Ne.symm other
    · exact ⟨rfl, rfl, fun _ _ => rfl, rfl⟩
  | published =>
    refine ⟨rfl, ?_, ?_, rfl⟩
    · rw [find?_cacheUpdateChannelStatus, if_neg (Ne.symm other)]
    · intro _ _
      unfold cacheUpdateChannelStatus
      split_ifs
      · rfl
      · exact List.count_erase_of_ne (Ne.symm other)
  | saved =>
    refine ⟨?_, rfl, fun _ _ => rfl, rfl⟩
    rw [find?_saveWithoutKey, if_neg]
    rw [named]
    exact Ne.symm other
  | _ => exact ⟨rfl, rfl, fun _ _ => rfl, rfl⟩

theorem afterChange_stage (before after : Channel) :
    stagePhase usingKey status (if before.status ≠ after.status then .publishing after.status else .fetching) =
      ChannelView.afterChange usingKey status before after := by
  unfold ChannelView.afterChange
  split_ifs <;> rfl

theorem StatusWrites.step {channels cache}
    (writes : StatusWrites env node id usingKey status stage next channels cache)
    (phase : statusPhase id node = stagePhase usingKey status stage)
    (named : stageNames id stage)
    (keeps : stage = .fetching → ∀ row, node.db.channels.find? id = some row →
    row.channelInfo.isMultiKey = true → row.status ≠ status)
    (allowed : may status) : ChannelView.Step env may (viewOf id node) {
      row := channels.find? id
      object := cache.channelsIDM.find? id
      listed := fun group model => (cache.group2model2channels group model).count id
      generation := cache.generation
      phase := stagePhase usingKey status next } := by
  cases writes with
  | refused result | ruled =>
    have same : viewOf id node = { viewOf id node with phase := .idle } := by simp only [viewOf, phase, stagePhase]
    exact same ▸ .elsewhere _
  | looked found several => exact .looked phase found several
  | chosen found single other => exact .chosen phase found single other
  | changed object generation =>
    rw [afterChange_stage]
    by_cases same : node.cache.generation = generation
    · cases looked : node.cache.channelsIDM.find? id with
      | none =>
        have kept : node.currentObject object generation = object := by
          rw [currentObject, if_pos same, named, looked, Option.getD_none]
        have object_after : (node.cache.channelsIDM.save (handlerMultiKeyUpdate env object usingKey status)).find? id =
            node.cache.channelsIDM.find? id := by
          rw [find?_save, looked]
          split_ifs <;> rfl
        rw [kept, changeObject, if_pos same, object_after]
        exact .orphaned phase (.inr looked)
      | some current =>
        have current_id : current.id = id := (find?_eq_some.mp looked).2
        have kept : node.currentObject object generation = current := by
          rw [currentObject, if_pos same, named, looked, Option.getD_some]
        have object_after : (node.cache.channelsIDM.save (handlerMultiKeyUpdate env current usingKey status)).find? id =
            some (handlerMultiKeyUpdate env current usingKey status) := by
          rw [find?_save, if_pos (by rw [handler_id, current_id]), looked, Option.map_some]
        rw [kept, changeObject, if_pos same, object_after]
        subst same
        exact .changed phase looked
    · have kept : node.currentObject object generation = object := if_neg same
      rw [kept, changeObject, if_neg same]
      exact .orphaned phase (.inl same)
  | published reached =>
    have listed :
      (fun group model => ((cacheUpdateChannelStatus id reached node.cache).group2model2channels
      group model).count id) =
        fun group model => if reached = channelStatusEnabled then (node.cache.group2model2channels group model).count id
          else (node.cache.group2model2channels group model).count id - 1 := by
      funext group model
      unfold cacheUpdateChannelStatus
      split_ifs
      · rfl
      · exact List.count_erase_self
    rw [find?_cacheUpdateChannelStatus, if_pos rfl, listed]
    exact .published phase
  | passed _ same =>
    apply ChannelView.Step.passed phase
    intro row stored
    refine ⟨same row stored, ?_⟩
    by_contra several
    exact keeps rfl row stored (by simpa using several) (same row stored)
  | fetched found other =>
    have next : ∀ row : Channel, stagePhase usingKey status
          (if row.channelInfo.isMultiKey then .handling row else .saving row (updatedRow env row usingKey status)) =
        if row.channelInfo.isMultiKey then .handling usingKey status row
        else .saving usingKey status row (updatedRow env row usingKey status) := by
      intro _
      split_ifs <;> rfl
    rw [next]
    exact .fetched phase found other
  | handled => exact .handled phase
  | saved _ _ done =>
    rw [done, find?_saveWithoutKey, if_pos named.symm]
    exact .saved phase allowed

theorem StatusMove.step {after} (found : node.threads thread = some ⟨.updateStatus channelId usingKey status, stage⟩)
    (named : stageNames channelId stage) (keeps : keepsRouting id node (.advance thread) = true)
    (allowed : channelId = id → may status)
    (move : StatusMove env node thread channelId usingKey status stage after) :
    ChannelView.Step env may (viewOf id node) (viewOf id after) := by
  cases move with
  | waits => exact .elsewhere _
  | @moves _ next moved before lock _ writes =>
    have phase : statusPhase id node = if channelId = id then stagePhase usingKey status stage else .idle := by
      rcases before with mine | ⟨free, rfl⟩
      · simp [statusPhase, mine, found, threadPhase]
      · simp [phase_of_free free, stagePhase]
    have phase_after : statusPhase id after = if channelId = id then stagePhase usingKey status next else .idle := by
      rcases lock with mine | ⟨free, result, rfl⟩
      · exact phase_of_holder moved mine
      · simp [phase_of_free free, stagePhase]
    by_cases same : channelId = id
    · subst same
      rw [if_pos rfl] at phase phase_after
      have step := writes.step phase named (by
        rintro rfl _ stored several
        simpa [keepsRouting, found, stored, several] using keeps) (allowed rfl)
      rwa [← phase_after] at step
    · obtain ⟨row, object, listed, generation⟩ := writes.elsewhere named same
      rw [if_neg same] at phase phase_after
      exact elsewhere_of_eq (view_eq row object listed generation (phase_after.trans phase.symm))

end Update

theorem node_step {event} (orderly : NodeOrderly node) (keeps : keepsRouting id node event = true) :
    NodeOrderly (node.step env event) ∧ ChannelView.Step env (fun status =>
      asks id node event status = true) (viewOf id node) (viewOf id (node.step env event)) := by
  cases event with
  | call thread call =>
    simp only [step]
    cases taken : node.threads thread with
    | some => exact ⟨orderly, .elsewhere _⟩
    | none =>
      have other : node.channelStatusLock ≠ some thread := fun mine => orderly.held thread mine taken
      have moved := goTo_moved node thread call .start
      have placed : ThreadPlaced (node.channelStatusLock = some thread) ⟨call, .start⟩ := by
        cases call with
        | refresh => exact other
        | updateStatus => exact ⟨fun flies => absurd flies (by simp [inFlight]), trivial⟩
        | manageKeys => cases keeps
        | nextKey => cases keeps
      exact ⟨orderly.moved moved placed, elsewhere_of_eq
        (view_eq rfl rfl (fun _ _ => rfl) rfl (phase_of_other moved rfl other))⟩
  | advance thread =>
    simp only [step, advance]
    cases found : node.threads thread with
    | none => exact ⟨orderly, .elsewhere _⟩
    | some state =>
      obtain ⟨call, stage⟩ := state
      cases call with
      | refresh => exact refresh_step orderly found keeps
      | updateStatus channelId usingKey status =>
        have move : StatusMove env node thread channelId usingKey status stage _ := update_cases orderly found
        refine ⟨move.orderly orderly, move.step found (orderly.placed thread _ found).2 keeps ?_⟩
        rintro rfl
        simp [asks, found]
      | manageKeys channelId action | nextKey channelId => exact (orderly.placed thread _ found).elim
  | useQuota => cases keeps

end Steps

end NewApi.Proof
