import NewApi.Model.ChannelNode
import NewApi.Proof.ChannelMirror

/-! # What the calls write to the rows of the channels -/

namespace NewApi.Proof
open Library Model ChannelNode

section Find
variable {id : ℕ+}

theorem find?_saveWithoutKey (updated : Channel) (channels) : (saveWithoutKey updated channels).find? id =
    if id = updated.id then (channels.find? id).map fun row =>
      { updated with id := row.id, key := row.key } else channels.find? id :=
  Table.find?_updateWhere updated.id (fun row : Channel => { updated with id := row.id, key := row.key }) fun _ => rfl

theorem find?_saveChannelInfo (updated : Channel) (channels) : (saveChannelInfo updated channels).find? id =
    if id = updated.id then (channels.find? id).map fun row =>
      { row with channelInfo := updated.channelInfo } else channels.find? id :=
  Table.find?_updateWhere updated.id (fun row : Channel => { row with channelInfo := updated.channelInfo }) fun _ => rfl

theorem find?_updateChannelUsedQuota (changed : ℕ+) (quota : Int) (channels) :
    (updateChannelUsedQuota changed quota channels).find? id =
      if id = changed then (channels.find? id).map fun row =>
        { row with usedQuota := row.usedQuota + quota } else channels.find? id :=
  Table.find?_updateWhere changed (fun row : Channel => { row with usedQuota := row.usedQuota + quota }) fun _ => rfl

end Find

theorem updates_id (updated stored : Channel) : (stored.updates updated).id = stored.id := rfl

def updateColumns (channelId : ℕ+) (updated : Channel) (channels : Table Channel.id) : Table Channel.id :=
  channels.updateWhere (·.id = channelId) (fun stored => stored.updates updated) (updates_id updated)

theorem find?_updateColumns {id} (channelId : ℕ+) (updated : Channel) (channels) :
    (updateColumns channelId updated channels).find? id =
      if id = channelId then (channels.find? id).map fun row => row.updates updated else channels.find? id :=
  Table.find?_updateWhere channelId (fun row : Channel => row.updates updated) fun _ => rfl

/-! A change of a status keeps the id and the key. -/

theorem handler_id (env channel) (usingKey : String) (status : Int) :
    (handlerMultiKeyUpdate env channel usingKey status).id = channel.id := by
  obtain ⟨_, _, handled, -⟩ := handler_status env channel usingKey status
  rw [handled]

theorem updatedRow_id (env) (row : Channel) (usingKey : String) (status : Int) :
    (updatedRow env row usingKey status).id = row.id := by
  unfold updatedRow
  split_ifs
  · exact handler_id env row usingKey status
  · rfl

theorem updatedRow_key (env) (row : Channel) (usingKey : String) (status : Int) :
    (updatedRow env row usingKey status).key = row.key := by
  unfold updatedRow
  split_ifs
  · obtain ⟨_, _, handled, -⟩ := handler_status env row usingKey status
    rw [handled]
  · rfl

def emptyHanded : NodeStage → Bool
  | .handling _ | .saving _ _ | .locking _ | .updating _ _ | .polling _ | .storing _ _ => false
  | _ => true

def hasReturned : NodeStage → Bool
  | .returned _ => true
  | _ => false

def tookEffect : NodeCall → NodeStage → Bool
  | .updateStatus _ _ _, .ruling | .updateStatus _ _ _, .returned _ => true
  | .manageKeys _ _, .recreating | .manageKeys _ _, .refreshing | .manageKeys _ _, .channelsRead _ => true
  | .manageKeys _ _, .abilitiesRead _ _ | .manageKeys _ _, .returned _ => true
  | _, _ => false

inductive NodeMoves (env : ChannelEnv) (node : ChannelNode) :
    NodeCall → NodeStage → NodeStage → Table Channel.id → List NodeCall → Prop
  | passes {call stage next} (empty : emptyHanded next = true)
      (before : tookEffect call next = true → tookEffect call stage = true) :
        NodeMoves env node call stage next node.db.channels node.effects
  | ignored {channelId usingKey status} (cached : node.memoryCacheEnabled = true) (free : node.channelStatusLock = none)
      (unseen : ∀ object, node.cache.channelsIDM.find? channelId = some object →
        object.channelInfo.isMultiKey = false ∧ object.status = status) :
      NodeMoves env node (.updateStatus channelId usingKey status) .start (.returned false) node.db.channels
        (node.effects ++ [.updateStatus channelId usingKey status])
  | satisfied {channelId usingKey status} (same : ∀ row, node.db.channels.find? channelId =
      some row → row.status = status) :
      NodeMoves env node (.updateStatus channelId usingKey status) .fetching (.returned false) node.db.channels
        (node.effects ++ [.updateStatus channelId usingKey status])
  | fetched {channelId usingKey status row} (found : node.db.channels.find? channelId = some row)
      (other : row.status ≠ status) :
      NodeMoves env node (.updateStatus channelId usingKey status) .fetching
        (if row.channelInfo.isMultiKey then .handling row else .saving row (updatedRow env row usingKey status))
        node.db.channels node.effects
  | handled {channelId usingKey status} (row : Channel) :
      NodeMoves env node (.updateStatus channelId usingKey status) (.handling row)
        (.saving row (updatedRow env row usingKey status)) node.db.channels node.effects
  | saved {channelId usingKey status} (row updated : Channel) {next} (empty : emptyHanded next = true) :
      NodeMoves env node (.updateStatus channelId usingKey status) (.saving row updated) next
        (saveWithoutKey updated node.db.channels)
        (node.effects ++ [.updateStatus channelId usingKey status])
  | refused {channelId action}
      (single : ∀ row, node.db.channels.find? channelId = some row → row.channelInfo.isMultiKey = false) :
      NodeMoves env node (.manageKeys channelId action) .start (.returned false) node.db.channels
        (node.effects ++ [.manageKeys channelId action])
  | located {channelId action row} (found : node.db.channels.find? channelId = some row)
      (several : row.channelInfo.isMultiKey = true) :
      NodeMoves env node (.manageKeys channelId action) .start (.locking row) node.db.channels node.effects
  | declined {channelId action row} (invalid : action.apply row.channelInfo = none) :
      NodeMoves env node (.manageKeys channelId action) (.locking row) (.returned false) node.db.channels
        (node.effects ++ [.manageKeys channelId action])
  | prepared {channelId action row info} (valid : action.apply row.channelInfo = some info) :
      NodeMoves env node (.manageKeys channelId action) (.locking row)
        (.updating row ({ row with channelInfo := info }.countKeys env node.db)) node.db.channels node.effects
  | updated {channelId action} (row changed : Channel) :
      NodeMoves env node (.manageKeys channelId action) (.updating row changed) .recreating
        (updateColumns channelId changed node.db.channels)
        (node.effects ++ [.manageKeys channelId action])
  | looked {channelId row} (found : node.db.channels.find? channelId = some row) :
      NodeMoves env node (.nextKey channelId) .start (.polling row) node.db.channels node.effects
  | selected {channelId row saved selection} (chosen : row.getNextEnabledKey env saved 0 = .ok selection) :
      NodeMoves env node (.nextKey channelId) (.polling row)
        (.storing row selection.channel) node.db.channels node.effects
  | stored {channelId} (row changed : Channel) (result : Bool) :
      NodeMoves env node (.nextKey channelId) (.storing row changed) (.returned result)
        (saveChannelInfo changed node.db.channels) node.effects

inductive NodeAdvances (env : ChannelEnv) (node : ChannelNode) (thread : Nat) (call : NodeCall)
    (stage : NodeStage) : ChannelNode → Prop
  | waits : NodeAdvances env node thread call stage node
  | moves {after next} (threads : after.threads = Function.update node.threads thread (some ⟨call, next⟩))
      (moves : NodeMoves env node call stage next after.db.channels after.effects) :
        NodeAdvances env node thread call stage after

section Advance
variable {env : ChannelEnv} {node : ChannelNode} {thread : Nat} {call : NodeCall} {stage : NodeStage}

variable {base : ChannelNode} {channelId : ℕ+}

theorem goTo_advances {next} (threads : base.threads = node.threads)
    (moves : NodeMoves env node call stage next base.db.channels base.effects) :
    NodeAdvances env node thread call stage (base.goTo thread call next) := by
  refine .moves ?_ moves
  rw [← threads]
  rfl

theorem finish_advances {result} (threads : base.threads = node.threads)
    (moves : NodeMoves env node call stage (.returned result) base.db.channels base.effects) :
    NodeAdvances env node thread call stage (base.finish thread call result) := by
  refine .moves ?_ moves
  rw [← threads]
  rfl

theorem refresh_advances : NodeAdvances env node thread .refresh stage (node.refreshStep thread .refresh stage) := by
  cases stage with
  | start =>
    rw [refreshStep]
    split_ifs
    · exact goTo_advances rfl (.passes rfl id)
    · exact finish_advances rfl (.passes rfl id)
  | channelsRead => exact goTo_advances rfl (.passes rfl id)
  | abilitiesRead =>
    rw [refreshStep]
    split_ifs
    · exact finish_advances rfl (.passes rfl id)
    · exact finish_advances rfl (.passes rfl id)
  | _ => exact .waits

theorem changeObject_rows (node : ChannelNode) (generation : Nat) (changed : Channel) :
    (node.changeObject generation changed).threads = node.threads ∧
      (node.changeObject generation changed).db = node.db ∧
      (node.changeObject generation changed).effects = node.effects := by
  unfold changeObject
  split_ifs <;> exact ⟨rfl, rfl, rfl⟩

theorem updateStatus_advances {usingKey status} : NodeAdvances env node thread
    (.updateStatus channelId usingKey status) stage
      (node.updateStatusStep env thread (.updateStatus channelId usingKey status) channelId usingKey status stage) := by
  cases stage with
  | start =>
    rw [updateStatusStep]
    split_ifs with cached
    · exact goTo_advances rfl (.passes rfl id)
    · replace cached : node.memoryCacheEnabled = true := by simpa using cached
      cases free : node.channelStatusLock with
      | some => exact .waits
      | none =>
        dsimp only
        cases looked : node.cache.channelsIDM.find? channelId with
        | none => exact finish_advances rfl (.ignored cached free (by simp [looked]))
        | some =>
          dsimp only
          split_ifs with several same
          · exact goTo_advances rfl (.passes rfl id)
          · exact finish_advances rfl (.ignored cached free
              (by simpa [looked] using And.intro (Bool.eq_false_of_not_eq_true several) same))
          · exact goTo_advances rfl (.passes rfl id)
  | changing object generation =>
    rw [updateStatusStep]
    cases node.pollingLocks channelId with
    | some => exact .waits
    | none =>
      obtain ⟨threads, rows, effects⟩ := changeObject_rows node generation
        (handlerMultiKeyUpdate env (node.currentObject object generation) usingKey status)
      refine goTo_advances threads ?_
      rw [rows, effects]
      split_ifs
      · exact .passes rfl id
      · exact .passes rfl id
  | publishing => exact goTo_advances rfl (.passes rfl id)
  | fetching =>
    rw [updateStatusStep]
    cases stored : node.db.channels.find? channelId with
    | none => exact finish_advances rfl (.satisfied (by simp [stored]))
    | some =>
      dsimp only
      split_ifs with same several
      · exact finish_advances rfl (.satisfied (by simp [stored, same]))
      · have moves : NodeMoves env node (.updateStatus channelId usingKey status) .fetching _ _ _ :=
          .fetched stored same
        rw [if_pos several] at moves
        exact goTo_advances rfl moves
      · have moves : NodeMoves env node (.updateStatus channelId usingKey status) .fetching _ _ _ :=
          .fetched stored same
        rw [if_neg several] at moves
        exact goTo_advances rfl moves
  | handling row =>
    rw [updateStatusStep]
    cases node.pollingLocks channelId with
    | some => exact .waits
    | none => exact goTo_advances rfl (.handled row)
  | saving row updated =>
    rw [updateStatusStep]
    dsimp only
    split_ifs
    · exact goTo_advances rfl (.saved row updated rfl)
    · exact finish_advances rfl (.saved row updated rfl)
  | ruling => exact finish_advances rfl (.passes rfl id)
  | _ => exact .waits

theorem manageKeys_advances {action} : NodeAdvances env node thread (.manageKeys channelId action) stage
    (node.manageKeysStep env thread (.manageKeys channelId action) channelId action stage) := by
  cases stage with
  | start =>
    rw [manageKeysStep]
    cases stored : node.db.channels.find? channelId with
    | none => exact finish_advances rfl (.refused (by simp [stored]))
    | some =>
      dsimp only
      split_ifs with several
      · exact goTo_advances rfl (.located stored several)
      · exact finish_advances rfl (.refused (by simpa [stored] using several))
  | locking row =>
    rw [manageKeysStep]
    cases node.pollingLocks channelId with
    | some => exact .waits
    | none =>
      dsimp only
      cases applied : action.apply row.channelInfo with
      | none => exact finish_advances rfl (.declined applied)
      | some => exact goTo_advances rfl (.prepared applied)
  | updating row changed => exact goTo_advances rfl (.updated row changed)
  | recreating =>
    rw [manageKeysStep]
    dsimp only
    split_ifs
    · exact goTo_advances rfl (.passes rfl id)
    · exact finish_advances rfl (.passes rfl id)
  | refreshing | channelsRead channels => exact goTo_advances rfl (.passes rfl id)
  | abilitiesRead =>
    rw [manageKeysStep]
    split_ifs
    · exact finish_advances rfl (.passes rfl id)
    · exact finish_advances rfl (.passes rfl id)
  | _ => exact .waits

theorem nextKey_advances : NodeAdvances env node thread (.nextKey channelId) stage
    (node.nextKeyStep env thread (.nextKey channelId) channelId stage) := by
  cases stage with
  | start =>
    rw [nextKeyStep]
    split_ifs
    · cases looked : node.cache.channelsIDM.find? channelId with
      | none => exact finish_advances rfl (.passes rfl id)
      | some =>
        cases node.pollingLocks channelId with
        | some => exact .waits
        | none =>
          dsimp only
          split
          · exact finish_advances rfl (.passes rfl id)
          · exact finish_advances rfl (.passes rfl id)
    · cases stored : node.db.channels.find? channelId with
      | none => exact finish_advances rfl (.passes rfl id)
      | some => exact goTo_advances rfl (.looked stored)
  | polling =>
    rw [nextKeyStep]
    cases node.pollingLocks channelId with
    | some => exact .waits
    | none =>
      dsimp only
      split
      · split_ifs
        · exact goTo_advances rfl (.selected ‹_›)
        · exact finish_advances rfl (.passes rfl id)
      · exact finish_advances rfl (.passes rfl id)
  | storing row changed => exact finish_advances rfl (.stored row changed true)
  | _ => exact .waits

theorem advance_cases (found : node.threads thread = some ⟨call, stage⟩) :
    NodeAdvances env node thread call stage (node.advance env thread) := by
  unfold advance
  rw [found]
  cases call with
  | refresh => exact refresh_advances
  | updateStatus => exact updateStatus_advances
  | manageKeys => exact manageKeys_advances
  | nextKey => exact nextKey_advances

def rowsAfter (channels : Table Channel.id) : NodeCall → NodeStage → Table Channel.id
  | .updateStatus _ _ _, .saving _ updated => saveWithoutKey updated channels
  | .manageKeys channelId _, .updating _ changed => updateColumns channelId changed channels
  | .nextKey _, .storing _ changed => saveChannelInfo changed channels
  | _, _ => channels

theorem advance_rows (found : node.threads thread = some ⟨call, stage⟩) :
    (node.advance env thread).db.channels = rowsAfter node.db.channels call stage := by
  have steps : NodeAdvances env node thread call stage (node.advance env thread) := advance_cases found
  by_cases writing : rowsAfter node.db.channels call stage = node.db.channels
  · rw [writing]
    generalize node.advance env thread = after at steps
    cases steps with
    | waits => rfl
    | moves _ moves =>
      generalize after.db.channels = channels, after.effects = effects at moves
      cases moves with
      | saved => exact writing
      | updated => exact writing
      | stored => exact writing
      | _ => rfl
  · rw [ChannelNode.advance, found]
    cases call with
    | refresh => exact absurd rfl writing
    | updateStatus =>
      cases stage with
      | saving =>
        dsimp only
        rw [updateStatusStep]
        split_ifs <;> rfl
      | _ => exact absurd rfl writing
    | manageKeys =>
      cases stage with
      | updating => rfl
      | _ => exact absurd rfl writing
    | nextKey =>
      cases stage with
      | storing => rfl
      | _ => exact absurd rfl writing
theorem threads_step {holds : NodeCall → NodeStage → Prop} {event} (starts : ∀ call, holds call .start)
    (moved : ∀ {call stage next channels effects}, holds call stage →
    NodeMoves env node call stage next channels effects → holds call next)
    (hands : ∀ thread call stage, node.threads thread = some ⟨call, stage⟩ → holds call stage) :
    ∀ thread call stage, (node.step env event).threads thread = some ⟨call, stage⟩ → holds call stage := by
  have updated : ∀ thread call stage, holds call stage → ∀ other call' stage',
      Function.update node.threads thread (some ⟨call, stage⟩) other = some ⟨call', stage'⟩ → holds call' stage' := by
    intro thread call stage now other call' stage' found
    by_cases same : other = thread
    · rw [same, Function.update_self] at found
      cases found
      exact now
    · rw [Function.update_of_ne same] at found
      exact hands other call' stage' found
  cases event with
  | call thread call =>
    simp only [step]
    cases taken : node.threads thread with
    | some => exact hands
    | none => exact updated thread call .start (starts call)
  | advance thread =>
    simp only [step]
    cases found : node.threads thread with
    | none => simpa only [advance, found] using hands
    | some state =>
      obtain ⟨call, stage⟩ := state
      have advances : NodeAdvances env node thread call stage (node.advance env thread) := advance_cases found
      generalize node.advance env thread = after at advances
      cases advances with
      | waits => exact hands
      | moves threads moves =>
        rw [threads]
        exact updated thread call _ (moved (hands thread call stage found) moves)
  | useQuota => exact hands

end Advance

end NewApi.Proof
