import NewApi.Model.ChannelNode

/-!
# Channels with or without the memory cache

Requests read the cache if it is enabled, and the tables if not.
-/

namespace NewApi.Model
open Library

structure ChannelStore where
  memoryCacheEnabled : Bool
  db : ChannelDb
  cache : ChannelCache

def ChannelNode.store (node : ChannelNode) : ChannelStore := ⟨node.memoryCacheEnabled, node.db, node.cache⟩

namespace ChannelStore
variable (store : ChannelStore)

def goneChannel (id : Nat) : String := s!"渠道# {id}，已不存在"

def getChannelById (id : ℕ+) : Except String Channel :=
    (store.db.channels.find? id).elim (.error "record not found") .ok

def cacheGetChannel (id : ℕ+) : Except String Channel :=
  if store.memoryCacheEnabled then (store.cache.channelsIDM.find? id).elim
    (.error (goneChannel id)) .ok else store.getChannelById id

def pollingIndex (id : ℕ+) : Option Int := (store.cacheGetChannel id).toOption.map (·.channelInfo.multiKeyPollingIndex)

def isChannelEnabledForGroupModel (group model : String) (id : ℕ+) : Bool :=
  let enabled (name : String) : Bool :=
    if store.memoryCacheEnabled then decide (id ∈ store.cache.group2model2channels group name)
    else decide (0 < store.db.abilities.countWhere fun ability =>
      ability.group = group ∧ ability.model = name ∧ ability.channelId = id ∧ ability.enabled = true)
  let normalized := formatMatchingModelName model
  if group = "" ∨ model = "" then false
  else enabled model || (normalized ≠ "" && normalized ≠ model && enabled normalized)

def randomSatisfiedChannel (env : ChannelEnv) (group model : String) (retry : Nat) (requestPath : String) (draw : Nat) :
    Except String (Option Channel) :=
  if store.memoryCacheEnabled then getRandomSatisfiedChannel env store.cache group model retry requestPath draw
  else getChannel env store.db group model retry requestPath draw

/-- In polling mode, on the object of the cache or on one that was loaded for the call. With the
cache on the index stays in the object. -/
def pollKey (env : ChannelEnv) (id : ℕ+) (loaded : Bool) : Option (Nat × String) × ChannelStore :=
  match if loaded then store.getChannelById id else store.cacheGetChannel id with
  | .error _ => (none, store)
  | .ok channel =>
    match channel.getNextEnabledKey env (store.pollingIndex id) 0 with
    | .error _ => (none, store)
    | .ok selected => (some (selected.index, selected.key),
        if store.memoryCacheEnabled = false then { store with db :=
          { store.db with channels := saveChannelInfo selected.channel store.db.channels } }
        else if loaded then store
        else { store with cache := { store.cache with channelsIDM := store.cache.channelsIDM.save selected.channel } })

def pollKeys (env : ChannelEnv) (id : ℕ+) (loaded : Bool) : Nat → ChannelStore → List (Nat × String) × ChannelStore
  | 0, store => ([], store)
  | count + 1, store =>
    let (polled, after) := store.pollKey env id loaded
    let (others, last) := pollKeys env id loaded count after
    (polled.toList ++ others, last)

end ChannelStore

end NewApi.Model
