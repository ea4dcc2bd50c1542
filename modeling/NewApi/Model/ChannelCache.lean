import NewApi.Model.Channel

/-!
# The memory cache of channels

The rows of all channels, and for every group and model the ids of the channels that serve it. A
refresh reads both tables and replaces the cache. A disabled channel is taken out of the lists in
place.
-/

namespace NewApi.Model
open Common Library

def handleThinkingBudgetModel (name prefixed wildcard : String) : String :=
  if hasPrefix name prefixed && containsText name "-thinking-" then wildcard else name

def formatMatchingModelName (name : String) : String :=
  let name :=
    if hasPrefix name "gemini-2.5-flash-lite" then
      handleThinkingBudgetModel name "gemini-2.5-flash-lite" "gemini-2.5-flash-lite-thinking-*"
    else if hasPrefix name "gemini-2.5-flash" then handleThinkingBudgetModel name "gemini-2.5-flash"
      "gemini-2.5-flash-thinking-*"
    else if hasPrefix name "gemini-2.5-pro" then handleThinkingBudgetModel name "gemini-2.5-pro"
      "gemini-2.5-pro-thinking-*"
    else name
  let name := if hasPrefix name "gpt-4-gizmo" then "gpt-4-gizmo-*" else name
  if hasPrefix name "gpt-4o-gizmo" then "gpt-4o-gizmo-*" else name

/-- `advancedConfigs` are the settings of the advanced custom channels. `generation` counts the refreshes, since
the rows of an earlier one are no longer in the cache. -/
structure ChannelCache where
  channelsIDM : Table Channel.id
  group2model2channels : String → String → List ℕ+
  advancedConfigs : ℕ+ → Option String
  generation : Nat

def ChannelCache.empty : ChannelCache := ⟨Table.empty, fun _ _ => [], fun _ => none, 0⟩

namespace Channel
variable (channel : Channel)

def groupPairs : List (String × String) :=
  channel.groupNames.flatMap fun group => channel.modelNames.map fun model => (group, model)

def entries (group model : String) : List ℕ+ :=
  (channel.groupPairs.filter fun pair => pair = (group, model)).map fun _ => channel.id

end Channel

def indexChannels (channels : Table Channel.id) (group model : String) : List ℕ+ :=
  ((channels.filter fun channel => channel.status = channelStatusEnabled).rows.flatMap fun channel =>
    channel.entries group model).insertionSort
      fun one two => ((channels.find? two).elim 0 Channel.getPriority) ≤
        ((channels.find? one).elim 0 Channel.getPriority)

def indexPanics (channels : Table Channel.id) (groups : List String) : Bool :=
  (channels.filter fun channel => channel.status = channelStatusEnabled).rows.any fun channel =>
    channel.groupNames.any fun group => group ∉ groups

def keepPollingIndex (old : Table Channel.id) (channel : Channel) : Channel :=
  match old.find? channel.id with
  | some cached =>
    if channel.channelInfo.isMultiKey ∧ channel.channelInfo.multiKeyMode = .polling ∧
        cached.channelInfo.isMultiKey ∧ cached.channelInfo.multiKeyMode = .polling then
      { channel with channelInfo := { channel.channelInfo with
          multiKeyPollingIndex := cached.channelInfo.multiKeyPollingIndex } }
    else channel
  | none => channel

theorem keepPollingIndex_id (old : Table Channel.id) (channel) : (keepPollingIndex old channel).id = channel.id := by
  unfold keepPollingIndex
  split
  · split_ifs <;> rfl
  · rfl

def ChannelCache.swap (cache : ChannelCache) (channels : Table Channel.id) : ChannelCache where
  channelsIDM := channels.modify (keepPollingIndex cache.channelsIDM) (keepPollingIndex_id cache.channelsIDM)
  group2model2channels := indexChannels channels
  advancedConfigs id := (channels.find? id).bind fun channel =>
    if channel.type = channelTypeAdvancedCustom then some channel.otherSettings else none
  generation := cache.generation + 1

def initChannelCache (db : ChannelDb) (cache : ChannelCache) : ChannelCache :=
  if indexPanics db.channels (db.abilities.rows.map (·.group)) then cache else cache.swap db.channels

section Select
variable (env : ChannelEnv) (cache : ChannelCache)

def keepsChannel (requestPath model : String) (channelId : ℕ+) : Bool :=
  match cache.channelsIDM.find? channelId with
  | none => true
  | some channel => channel.type ≠ channelTypeAdvancedCustom ||
      (cache.advancedConfigs channelId).any fun settings => env.supportsPathForModel settings requestPath model

def filterChannelsByRequestPathAndModel (channels : List ℕ+) (requestPath model : String) : List ℕ+ :=
  if requestPath = "" then channels else channels.filter (keepsChannel env cache requestPath model)

def candidateChannels (group model requestPath : String) : List ℕ+ :=
  let channels := filterChannelsByRequestPathAndModel env cache
    (cache.group2model2channels group model) requestPath model
  if channels = [] then
    filterChannelsByRequestPathAndModel env cache (cache.group2model2channels group
      (formatMatchingModelName model)) requestPath model
  else channels

def missingChannel (id : Nat) : String := s!"数据库一致性错误，渠道# {id} 不存在，请联系管理员修复"

def lookupChannels : List ℕ+ → Except String (List Channel)
  | [] => .ok []
  | channelId :: rest =>
    match cache.channelsIDM.find? channelId with
    | none => .error (missingChannel channelId)
    | some channel => do
      let channels ← lookupChannels rest
      return channel :: channels

theorem lookupChannels_ids {cache ids channels} (looked : lookupChannels cache ids = .ok channels) :
    channels.map Channel.id = ids := by
  induction ids generalizing channels with
  | nil =>
    cases looked
    rfl
  | cons first rest ih =>
    unfold lookupChannels at looked
    cases found : cache.channelsIDM.find? first with
    | none => simp [found] at looked
    | some =>
      cases others : lookupChannels cache rest with
      | error => simp [found, others, bind, Except.bind] at looked
      | ok =>
        simp only [found, others, bind, Except.bind, pure, Except.pure, Except.ok.injEq] at looked
        rw [← looked, List.map_cons, ih others, (Table.find?_eq_some.mp found).2]

def sortedUniquePriorities (channels : List Channel) : List Int :=
  (channels.map Channel.getPriority).dedup.insertionSort (· ≥ ·)

def targetPriority (channels : List Channel) (retry : Int) : Except String Int :=
  let priorities := sortedUniquePriorities channels
  let index : Int := if priorities.length ≤ retry then priorities.length - 1 else retry
  if index < 0 then .error "index out of range"
  else (priorities[index.toNat]?).elim (.error "index out of range") .ok

def targetChannels (channelIds : List ℕ+) (retry : Int) : Except String (List Channel) := do
  let channels ← lookupChannels cache channelIds
  let priority ← targetPriority channels retry
  return channels.filter fun channel => channel.getPriority = priority

def pickChannel (smoothingFactor smoothingAdjustment : Nat) : List Channel → Int → Option Channel
  | [], _ => none
  | channel :: channels, randomWeight =>
    let randomWeight := randomWeight - (channel.getWeight * smoothingFactor + smoothingAdjustment : Nat)
    if randomWeight < 0 then some channel else pickChannel smoothingFactor smoothingAdjustment channels randomWeight

def drawChannel (channels : List Channel) (draw : Nat) : Option Channel :=
  let sumWeight := (channels.map Channel.getWeight).sum
  if sumWeight = 0 then pickChannel 1 100 channels (draw % (channels.length * 100) : Nat)
  else
    let smoothingFactor := if sumWeight / channels.length < 10 then 100 else 1
    pickChannel smoothingFactor 0 channels (draw % (sumWeight * smoothingFactor) : Nat)

/-! The same draw in 64-bit integers, where sums and products wrap around. -/

def smoothing64 (channels : List Channel) : Nat × Nat :=
  let sumWeight := wrap64 (channels.map Channel.getWeight).sum
  if sumWeight = 0 then (1, 100) else if sumWeight.tdiv channels.length < 10 then (100, 0) else (1, 0)

def totalWeight64 (channels : List Channel) : Int :=
  let sumWeight := wrap64 (channels.map Channel.getWeight).sum
  wrap64 ((if sumWeight = 0 then (channels.length * 100 : Int) else sumWeight) * (smoothing64 channels).1)

def pickChannel64 (smoothingFactor smoothingAdjustment : Nat) : List Channel → Int → Option Channel
  | [], _ => none
  | channel :: channels, randomWeight =>
    let randomWeight := wrap64 (randomWeight - wrap64 (channel.getWeight * smoothingFactor + smoothingAdjustment : Nat))
    if randomWeight < 0 then some channel else pickChannel64 smoothingFactor smoothingAdjustment channels randomWeight

def drawChannel64 (channels : List Channel) (randomWeight : Int) : Option Channel :=
  pickChannel64 (smoothing64 channels).1 (smoothing64 channels).2 channels randomWeight

def getRandomSatisfiedChannel (group model : String) (retry : Int) (requestPath : String) (draw : Nat) :
    Except String (Option Channel) := do
  match candidateChannels env cache group model requestPath with
  | [] => return none
  | [channelId] =>
    let channels ← lookupChannels cache [channelId]
    return channels.head?
  | channelIds =>
    let channels ← targetChannels cache channelIds retry
    match drawChannel channels draw with
    | some channel => return some channel
    | none => throw "channel not found"

end Select

theorem withStatus_id (status : Int) (channel : Channel) :
    ({ channel with status := status } : Channel).id = channel.id := rfl

def cacheUpdateChannelStatus (id : ℕ+) (status : Int) (cache : ChannelCache) : ChannelCache :=
  { cache with
    channelsIDM := cache.channelsIDM.updateWhere (·.id = id)
      (fun channel => { channel with status := status }) (withStatus_id status)
    group2model2channels := fun group model =>
      if status = channelStatusEnabled then cache.group2model2channels group model
      else (cache.group2model2channels group model).erase id }

end NewApi.Model
