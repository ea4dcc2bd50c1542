import NewApi.Model.ChannelCache
import NewApi.Model.MultiKey

/-!
# A node and its channels

Refreshes of the memory cache, changes of a status, management of keys and selections of a key run
side by side. One event is one step of one of them, with one statement or one access to the cache. A
step that has to wait for a lock changes nothing.
-/

namespace NewApi.Model
open Library

inductive NodeCall where
  | refresh
  | updateStatus (channelId : ℕ+) (usingKey : String) (status : Int)
  | manageKeys (channelId : ℕ+) (action : KeyAction)
  | nextKey (channelId : ℕ+)

/-- The next step of a call. A status is `changing` and `publishing` in the cache, then `fetching`,
`handling`, `saving` and `ruling` in the database. Keys are `locking`, `updating` and `recreating`,
and then the cache is refreshed. -/
inductive NodeStage where
  | start
  | channelsRead (channels : Table Channel.id)
  | abilitiesRead (channels : Table Channel.id) (groups : List String)
  | changing (object : Channel) (generation : Nat)
  | publishing (status : Int)
  | fetching
  | handling (row : Channel)
  | saving (row updated : Channel)
  | ruling
  | locking (row : Channel)
  | updating (row updated : Channel)
  | recreating
  | refreshing
  | polling (row : Channel)
  | storing (row updated : Channel)
  | returned (result : Bool)

structure NodeThread where
  call : NodeCall
  stage : NodeStage

/-- `effects` are the calls in the order in which they took effect: when they wrote the row of their
channel, or when they returned without writing it. -/
structure ChannelNode where
  memoryCacheEnabled : Bool
  db : ChannelDb
  cache : ChannelCache
  channelStatusLock : Option Nat
  pollingLocks : ℕ+ → Option Nat
  threads : Nat → Option NodeThread
  effects : List NodeCall

def ChannelNode.init (memoryCacheEnabled : Bool) (db : ChannelDb) (cache : ChannelCache) : ChannelNode :=
  ⟨memoryCacheEnabled, db, cache, none, fun _ => none, fun _ => none, []⟩

def saveWithoutKey (channel : Channel) (channels : Table Channel.id) : Table Channel.id :=
  channels.updateWhere (·.id = channel.id) (fun row => { channel with id := row.id, key := row.key }) fun _ => rfl

def saveChannelInfo (channel : Channel) (channels : Table Channel.id) : Table Channel.id :=
  channels.updateWhere (·.id = channel.id) (fun row => { row with channelInfo := channel.channelInfo }) fun _ => rfl

def updateChannelUsedQuota (id : ℕ+) (quota : Int) (channels : Table Channel.id) : Table Channel.id :=
  channels.updateWhere (·.id = id) (fun row => { row with usedQuota := row.usedQuota + quota }) fun _ => rfl

namespace ChannelNode
variable (env : ChannelEnv) (node : ChannelNode) (thread : Nat) (call : NodeCall)

def goTo (stage : NodeStage) :
    ChannelNode := { node with threads := Function.update node.threads thread (some ⟨call, stage⟩) }

def tookEffect : ChannelNode := { node with effects := node.effects ++ [call] }

def finish (result : Bool) : ChannelNode :=
  { node.goTo thread call (.returned result) with
    channelStatusLock := if node.channelStatusLock = some thread then none else node.channelStatusLock }

def lockPolling (id : ℕ+) :
    ChannelNode := { node with pollingLocks := Function.update node.pollingLocks id (some thread) }

def unlockPolling (id : ℕ+) : ChannelNode := { node with pollingLocks := Function.update node.pollingLocks id none }

/-! ## `InitChannelCache` -/

def refreshStep : NodeStage → ChannelNode
  | .start =>
    if node.memoryCacheEnabled then node.goTo thread call
      (.channelsRead node.db.channels) else node.finish thread call true
  | .channelsRead channels => node.goTo thread call (.abilitiesRead channels (node.db.abilities.rows.map (·.group)))
  | .abilitiesRead channels groups =>
    if indexPanics channels groups then node.finish thread call false
    else { node with cache := node.cache.swap channels }.finish thread call true
  | _ => node

/-! ## `UpdateChannelStatus` -/

def currentObject (object : Channel) (generation : Nat) : Channel :=
  if node.cache.generation = generation then (node.cache.channelsIDM.find? object.id).getD object else object

def changeObject (generation : Nat) (changed : Channel) : ChannelNode :=
  if node.cache.generation = generation then
    { node with cache := { node.cache with channelsIDM := node.cache.channelsIDM.save changed } }
  else node

def updatedRow (row : Channel) (usingKey : String) (status : Int) : Channel :=
  if row.channelInfo.isMultiKey then handlerMultiKeyUpdate env row usingKey status else { row with status := status }

def shouldUpdateAbilities (row updated : Channel) : Bool := !row.channelInfo.isMultiKey || row.status ≠ updated.status

def updateStatusStep (channelId : ℕ+) (usingKey : String) (status : Int) : NodeStage → ChannelNode
  | .start =>
    if node.memoryCacheEnabled = false then node.goTo thread call .fetching
    else
      match node.channelStatusLock with
      | some _ => node
      | none =>
        let locked := { node with channelStatusLock := some thread }
        match node.cache.channelsIDM.find? channelId with
        | none => (locked.tookEffect call).finish thread call false
        | some object =>
          if object.channelInfo.isMultiKey then locked.goTo thread call (.changing object node.cache.generation)
          else if object.status = status then (locked.tookEffect call).finish thread call false
          else locked.goTo thread call (.publishing status)
  | .changing object generation =>
    match node.pollingLocks channelId with
    | some _ => node
    | none =>
      let current := node.currentObject object generation
      let changed := handlerMultiKeyUpdate env current usingKey status
      (node.changeObject generation changed).goTo thread call
        (if object.status ≠ changed.status then .publishing changed.status else .fetching)
  | .publishing published => { node with cache := cacheUpdateChannelStatus channelId published node.cache }.goTo thread call .fetching
  | .fetching =>
    match node.db.channels.find? channelId with
    | none => (node.tookEffect call).finish thread call false
    | some row =>
      if row.status = status then (node.tookEffect call).finish thread call false
      else if row.channelInfo.isMultiKey then node.goTo thread call (.handling row)
      else node.goTo thread call (.saving row (updatedRow env row usingKey status))
  | .handling row =>
    match node.pollingLocks channelId with
    | some _ => node
    | none => node.goTo thread call (.saving row (updatedRow env row usingKey status))
  | .saving row updated =>
    let saved := { node with db := { node.db with channels := saveWithoutKey updated node.db.channels } }.tookEffect call
    if shouldUpdateAbilities row updated then saved.goTo thread call .ruling else saved.finish thread call true
  | .ruling =>
    { node with db := { node.db with
        abilities := updateAbilityStatus channelId (status = channelStatusEnabled)
          node.db.abilities } }.finish thread call true
  | _ => node

/-! ## `ManageMultiKeys` -/

def manageKeysStep (channelId : ℕ+) (action : KeyAction) : NodeStage → ChannelNode
  | .start =>
    match node.db.channels.find? channelId with
    | none => (node.tookEffect call).finish thread call false
    | some row =>
      if row.channelInfo.isMultiKey then node.goTo thread call (.locking row)
      else (node.tookEffect call).finish thread call false
  | .locking row =>
    match node.pollingLocks channelId with
    | some _ => node
    | none =>
      match action.apply row.channelInfo with
      | none => (node.tookEffect call).finish thread call false
      | some info => (node.lockPolling thread channelId).goTo thread call
          (.updating row ({ row with channelInfo := info }.countKeys env node.db))
  | .updating _ updated =>
    let channels := node.db.channels.updateWhere (·.id = channelId) (fun stored => stored.updates updated) fun _ => rfl
    ({ node with db := { node.db with channels := channels } }.tookEffect call).goTo thread call .recreating
  | .recreating =>
    let abilities := ((node.db.channels.find? channelId).map fun row =>
      row.updateAbilities node.db.abilities).getD node.db.abilities
    let recreated := { node with db := { node.db with abilities := abilities } }
    if node.memoryCacheEnabled then recreated.goTo thread call .refreshing
    else (recreated.unlockPolling channelId).finish thread call true
  | .refreshing => node.goTo thread call (.channelsRead node.db.channels)
  | .channelsRead channels => node.goTo thread call (.abilitiesRead channels (node.db.abilities.rows.map (·.group)))
  | .abilitiesRead channels groups =>
    let refreshed := if indexPanics channels groups then node else { node with cache := node.cache.swap channels }
    (refreshed.unlockPolling channelId).finish thread call true
  | _ => node

/-! ## `GetNextEnabledKey` -/

def nextKeyStep (channelId : ℕ+) : NodeStage → ChannelNode
  | .start =>
    if node.memoryCacheEnabled then
      match node.cache.channelsIDM.find? channelId, node.pollingLocks channelId with
      | some object, none =>
        match object.getNextEnabledKey env (some object.channelInfo.multiKeyPollingIndex) 0 with
        | .ok selected => { node with cache := { node.cache with channelsIDM := node.cache.channelsIDM.save selected.channel } }.finish
            thread call true
        | .error _ => node.finish thread call false
      | some _, some _ => node
      | none, _ => node.finish thread call false
    else
      match node.db.channels.find? channelId with
      | none => node.finish thread call false
      | some row => node.goTo thread call (.polling row)
  | .polling row =>
    match node.pollingLocks channelId with
    | some _ => node
    | none =>
      match row.getNextEnabledKey env ((node.db.channels.find? channelId).map
        (·.channelInfo.multiKeyPollingIndex)) 0 with
      | .ok selected =>
        if row.channelInfo.isMultiKey && row.channelInfo.multiKeyMode = .polling then
          (node.lockPolling thread channelId).goTo thread call (.storing row selected.channel)
        else node.finish thread call true
      | .error _ => node.finish thread call false
  | .storing _ updated =>
    ({ node with db := { node.db with channels := saveChannelInfo updated node.db.channels } }.unlockPolling channelId).finish
      thread call true
  | _ => node

end ChannelNode

/-! ## Runs -/

inductive NodeEvent where
  | call (thread : Nat) (call : NodeCall)
  | advance (thread : Nat)
  | useQuota (channelId : ℕ+) (quota : Int)

def ChannelNode.advance (env : ChannelEnv) (node : ChannelNode) (thread : Nat) : ChannelNode :=
  match node.threads thread with
  | none => node
  | some ⟨call, stage⟩ =>
    match call with
    | .refresh => node.refreshStep thread call stage
    | .updateStatus channelId usingKey status => node.updateStatusStep env thread call channelId usingKey status stage
    | .manageKeys channelId action => node.manageKeysStep env thread call channelId action stage
    | .nextKey channelId => node.nextKeyStep env thread call channelId stage

def ChannelNode.step (env : ChannelEnv) (node : ChannelNode) : NodeEvent → ChannelNode
  | .call thread call =>
    match node.threads thread with
    | none => node.goTo thread call .start
    | some _ => node
  | .advance thread => node.advance env thread
  | .useQuota channelId quota =>
      { node with db :=
      { node.db with channels := updateChannelUsedQuota channelId quota node.db.channels } }

end NewApi.Model
