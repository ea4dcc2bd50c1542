import Mathlib.Tactic.Ring
import NewApi.Library.Draw
import NewApi.Library.Levels
import NewApi.Model.ChannelCache
import NewApi.Proof.ChannelMirror

/-! # The two selectors -/

namespace NewApi.Proof
open Common Library Model Table
variable {cache old : ChannelCache} {retry draw : Nat}

structure InStep (db : ChannelDb) : Prop where
  mirrored : Mirrored db
  owned : ∀ ability ∈ db.abilities.rows, ∃ channel ∈ db.channels.rows, channel.id = ability.channelId

/-! ## Channels that serve a request -/

section Serving
variable (env : ChannelEnv) (db : ChannelDb) (group model requestPath : String)

def servesPath (channel : Channel) : Bool :=
  requestPath = "" || channel.type ≠ channelTypeAdvancedCustom || env.supportsPathForModel
    channel.otherSettings requestPath model

def serving : List Channel :=
  db.channels.rows.filter fun channel =>
    channel.status = channelStatusEnabled ∧ group ∈ channel.groupNames ∧ model ∈ channel.modelNames

def servingPath (name : String) : List Channel := (serving db group name).filter (servesPath env model requestPath)

def level (channels : List Channel) (retry : Nat) : Option Int := levelAt (channels.map Channel.getPriority) retry

def cachedCandidates : List Channel :=
  if servingPath env db group model requestPath model = [] then
    servingPath env db group model requestPath (formatMatchingModelName model)
  else servingPath env db group model requestPath model

end Serving

section Fresh
variable {env : ChannelEnv} {db : ChannelDb} {group model requestPath name : String}

theorem mem_serving {channel} : channel ∈ serving db group model ↔ channel ∈ db.channels.rows ∧
    channel.status = channelStatusEnabled ∧ group ∈ channel.groupNames ∧ model ∈ channel.modelNames := by
  simp [serving]

theorem servingPath_stored {name channel} (mem : channel ∈ servingPath env db group model requestPath name) :
    channel ∈ db.channels.rows :=
  (mem_serving.mp (List.mem_filter.mp mem).1).1

theorem cachedCandidates_stored {channel} (mem : channel ∈ cachedCandidates env db group model requestPath) :
    channel ∈ db.channels.rows := by
  unfold cachedCandidates at mem
  split_ifs at mem <;> exact servingPath_stored mem

theorem modelNames_ne_nil (channel : Channel) : channel.modelNames ≠ [] := by
  unfold Channel.modelNames Common.splitText
  simp only [ne_eq, List.map_eq_nil_iff]
  exact List.splitOn_ne_nil _ _

theorem refresh_succeeds (mirrored : Mirrored db) : indexPanics db.channels
    (db.abilities.rows.map (·.group)) = false := by
  rw [Bool.eq_false_iff]
  intro panics
  obtain ⟨channel, mem, listed⟩ := List.any_eq_true.mp panics
  obtain ⟨group, grouped, absent⟩ := List.any_eq_true.mp listed
  obtain ⟨model, served⟩ := List.exists_mem_of_ne_nil _ (modelNames_ne_nil channel)
  have stored := (mem_filter.mp mem).1
  have present := ((mirrored channel stored (channel.ability group model)).mpr ⟨group, grouped, model, served, rfl⟩).1
  exact (of_decide_eq_true absent) (List.mem_map.mpr ⟨_, present, rfl⟩)

theorem fresh_cache (mirrored : Mirrored db) : initChannelCache db old = old.swap db.channels := by
  rw [initChannelCache, refresh_succeeds mirrored]
  rfl

theorem mem_groupPairs {channel : Channel} {pair} :
    pair ∈ channel.groupPairs ↔ pair.1 ∈ channel.groupNames ∧ pair.2 ∈ channel.modelNames := by
  obtain ⟨_, _⟩ := pair
  simp [Channel.groupPairs]

variable {id : ℕ+}

theorem mem_entries {channel : Channel} :
    id ∈ channel.entries group model ↔ id = channel.id ∧ group ∈ channel.groupNames ∧ model ∈ channel.modelNames := by
  unfold Channel.entries
  rw [List.mem_map]
  constructor
  · rintro ⟨_, mem, rfl⟩
    obtain ⟨listed, same⟩ := List.mem_filter.mp mem
    obtain rfl := of_decide_eq_true same
    exact ⟨rfl, mem_groupPairs.mp listed⟩
  · rintro ⟨rfl, names⟩
    exact ⟨(group, model), List.mem_filter.mpr ⟨mem_groupPairs.mpr names, by simp⟩, rfl⟩

theorem mem_indexChannels : id ∈ indexChannels db.channels group model ↔
    ∃ channel ∈ serving db group model, channel.id = id := by
  unfold indexChannels
  rw [List.mem_insertionSort, List.mem_flatMap]
  constructor
  · rintro ⟨channel, mem, entry⟩
    obtain ⟨stored, enabled⟩ := mem_filter.mp mem
    obtain ⟨rfl, names⟩ := mem_entries.mp entry
    exact ⟨channel, mem_serving.mpr ⟨stored, by simpa using enabled, names⟩, rfl⟩
  · rintro ⟨channel, served, rfl⟩
    obtain ⟨stored, enabled, names⟩ := mem_serving.mp served
    exact ⟨channel, mem_filter.mpr ⟨stored, by simpa using enabled⟩, mem_entries.mpr ⟨rfl, names⟩⟩

theorem find?_swap (id : ℕ+) :
    (old.swap db.channels).channelsIDM.find? id = (db.channels.find? id).map (keepPollingIndex old.channelsIDM) :=
  find?_modify _ (keepPollingIndex_id old.channelsIDM)

theorem keepPollingIndex_type (channels channel) : (keepPollingIndex channels channel).type = channel.type := by
  unfold keepPollingIndex
  split
  · split_ifs <;> rfl
  · rfl

theorem keepPollingIndex_priority (channels channel) :
    (keepPollingIndex channels channel).getPriority = channel.getPriority := by
  unfold keepPollingIndex
  split
  · split_ifs <;> rfl
  · rfl

theorem keepsChannel_swap {channel} (stored : channel ∈ db.channels.rows) (path : requestPath ≠ "") :
    keepsChannel env (old.swap db.channels) requestPath model channel.id =
      servesPath env model requestPath channel := by
  have found : db.channels.find? channel.id = some channel := find?_eq_some.mpr ⟨stored, rfl⟩
  have settings : (old.swap db.channels).advancedConfigs channel.id =
      if channel.type = channelTypeAdvancedCustom then some channel.otherSettings else none := by
    simp [ChannelCache.swap, found]
  unfold keepsChannel servesPath
  rw [find?_swap, found, settings]
  by_cases custom : channel.type = channelTypeAdvancedCustom <;> simp [keepPollingIndex_type, custom, path]

theorem mem_filterChannels :
    id ∈ filterChannelsByRequestPathAndModel env (old.swap db.channels)
      (indexChannels db.channels group name) requestPath model ↔
      ∃ channel ∈ servingPath env db group model requestPath name, channel.id = id := by
  unfold filterChannelsByRequestPathAndModel servingPath
  split_ifs with path
  · rw [mem_indexChannels]
    simp [servesPath, path]
  · rw [List.mem_filter, mem_indexChannels]
    constructor
    · rintro ⟨⟨channel, served, rfl⟩, kept⟩
      rw [keepsChannel_swap (mem_serving.mp served).1 path] at kept
      exact ⟨channel, List.mem_filter.mpr ⟨served, kept⟩, rfl⟩
    · rintro ⟨channel, mem, rfl⟩
      obtain ⟨served, kept⟩ := List.mem_filter.mp mem
      exact ⟨⟨channel, served, rfl⟩, by rw [keepsChannel_swap (mem_serving.mp served).1 path, kept]⟩

theorem mem_candidateChannels : id ∈ candidateChannels env (old.swap db.channels) group model requestPath ↔
      ∃ channel ∈ cachedCandidates env db group model requestPath, channel.id = id := by
  have exact : filterChannelsByRequestPathAndModel env (old.swap db.channels)
    (indexChannels db.channels group model) requestPath model = [] ↔
      servingPath env db group model requestPath model = [] := by
    simp only [List.eq_nil_iff_forall_not_mem, mem_filterChannels]
    constructor
    · intro none channel mem
      exact none channel.id ⟨channel, mem, rfl⟩
    · rintro none _ ⟨channel, mem, -⟩
      exact none channel mem
  change id ∈ (if filterChannelsByRequestPathAndModel env (old.swap db.channels)
    (indexChannels db.channels group model) requestPath model = []
    then _ else _) ↔ _
  unfold cachedCandidates
  simp only [exact]
  split_ifs with none
  · exact mem_filterChannels
  · exact mem_filterChannels

end Fresh

/-! ## The draw with the cache -/

def cachedDraw (env : ChannelEnv) (cache : ChannelCache) (group model : String) (retry : Int)
    (requestPath : String) : List Channel :=
  match candidateChannels env cache group model requestPath with
  | [] => []
  | [channelId] => (lookupChannels cache [channelId]).toOption.getD []
  | channelIds => (targetChannels cache channelIds retry).toOption.getD []

section Cached
variable {env : ChannelEnv} {db : ChannelDb} {group model requestPath : String}

variable {channelIds : List ℕ+} {cached : Channel}

theorem lookupChannels_ok (present : ∀ id ∈ channelIds, ∃ channel, cache.channelsIDM.find? id = some channel) :
    lookupChannels cache channelIds = .ok (channelIds.filterMap cache.channelsIDM.find?) := by
  induction channelIds with
  | nil => rfl
  | cons first _ ih =>
    obtain ⟨_, found⟩ := present first (by simp)
    rw [lookupChannels, found, ih fun id mem => present id (by simp [mem])]
    simp [found, pure, Except.pure, bind, Except.bind]

theorem targetPriority_eq {channels} (present : channels ≠ []) :
    targetPriority channels retry = (level channels retry).elim (.error "index out of range") .ok := by
  have priorities : sortedUniquePriorities channels = levels (channels.map Channel.getPriority) := rfl
  have inhabited : 0 < (levels (channels.map Channel.getPriority)).length := by
    rw [List.length_pos_iff]
    intro none
    exact present (List.map_eq_nil_iff.mp (levels_eq_nil.mp none))
  unfold targetPriority level levelAt
  simp only [priorities]
  have index : (if ((levels (channels.map Channel.getPriority)).length : Int) ≤ retry then
      ((levels (channels.map Channel.getPriority)).length - 1 : Int) else retry) =
      (min retry ((levels (channels.map Channel.getPriority)).length - 1) : Nat) := by
    split_ifs <;> omega
  rw [index, if_neg (by omega), Int.toNat_natCast]

theorem mem_looked {channels : List Channel} (candidates : ∀ id, id ∈ channelIds ↔
    ∃ channel ∈ channels, channel.id = id)
    (stored : ∀ channel ∈ channels, channel ∈ db.channels.rows) :
    cached ∈ channelIds.filterMap (old.swap db.channels).channelsIDM.find? ↔
      ∃ channel ∈ channels, keepPollingIndex old.channelsIDM channel = cached := by
  rw [List.mem_filterMap]
  constructor
  · rintro ⟨id, mem, found⟩
    obtain ⟨channel, listed, rfl⟩ := (candidates id).mp mem
    rw [find?_swap, find?_eq_some.mpr ⟨stored channel listed, rfl⟩] at found
    exact ⟨channel, listed, Option.some.inj found⟩
  · rintro ⟨channel, listed, rfl⟩
    refine ⟨channel.id, (candidates _).mpr ⟨channel, listed, rfl⟩, ?_⟩
    rw [find?_swap, find?_eq_some.mpr ⟨stored channel listed, rfl⟩]
    rfl

theorem level_mem {channels priority} (found : level channels retry = some priority) :
    ∃ channel ∈ channels, channel.getPriority = priority :=
  List.mem_map.mp (levelAt_mem found)

theorem level_some {channels} (present : channels ≠ []) (retry : Nat) :
    ∃ priority, level channels retry = some priority :=
  levelAt_some (by simpa using present) retry

variable {channels : List Channel}

def atLevel (channels : List Channel) (retry : Nat) : List Channel :=
  channels.filter fun channel => level channels retry = some channel.getPriority

theorem atLevel_ne_nil (present : channels ≠ []) (retry : Nat) : atLevel channels retry ≠ [] := by
  obtain ⟨_, chosen⟩ := level_some present retry
  obtain ⟨_, mem, rfl⟩ := level_mem chosen
  exact List.ne_nil_of_mem (List.mem_filter.mpr ⟨mem, decide_eq_true chosen⟩)

theorem targetChannels_eq (looked : lookupChannels cache channelIds = .ok channels)
    (present : channels ≠ []) (retry : Nat) :
    targetChannels cache channelIds retry = .ok (atLevel channels retry) := by
  obtain ⟨_, chosen⟩ := level_some present retry
  unfold targetChannels atLevel
  simp only [looked, bind, Except.bind, targetPriority_eq present, chosen, Option.elim_some, pure,
    Except.pure, Option.some.injEq, eq_comm]

theorem cachedDraw_eq (present : ∀ id ∈ candidateChannels env cache group model requestPath,
    ∃ channel, cache.channelsIDM.find? id = some channel) :
    cachedDraw env cache group model retry requestPath =
      let channels := (candidateChannels env cache group model requestPath).filterMap cache.channelsIDM.find?
      channels.filter fun channel => level channels retry = some channel.getPriority := by
  unfold cachedDraw
  cases shape : candidateChannels env cache group model requestPath with
  | nil => rfl
  | cons first others =>
    rw [shape] at present
    have looked := lookupChannels_ok present
    cases others with
    | nil =>
      obtain ⟨channel, found⟩ := present first (by simp)
      obtain ⟨_, only⟩ := level_some (List.cons_ne_nil channel []) retry
      obtain ⟨_, mem, same⟩ := level_mem only
      obtain rfl := List.mem_singleton.mp mem
      simp [looked, found, only, same, Except.toOption]
    | cons second rest =>
      obtain ⟨_, found⟩ := present first (by simp)
      have some : (first :: second :: rest).filterMap cache.channelsIDM.find? ≠ [] := by simp [found]
      simp only [targetChannels_eq looked some, Except.toOption, Option.getD_some]
      rfl

theorem mem_cachedDraw : cached ∈ cachedDraw env (old.swap db.channels) group model retry requestPath ↔
      ∃ channel ∈ cachedCandidates env db group model requestPath, keepPollingIndex old.channelsIDM channel = cached ∧
        level (cachedCandidates env db group model requestPath) retry = some channel.getPriority := by
  have stored : ∀ channel ∈ cachedCandidates env db group model requestPath, channel ∈ db.channels.rows :=
    fun _ => cachedCandidates_stored
  have looked (cached : Channel) :
    cached ∈ (candidateChannels env (old.swap db.channels) group model requestPath).filterMap
      (old.swap db.channels).channelsIDM.find? ↔
      ∃ channel ∈ cachedCandidates env db group model requestPath, keepPollingIndex old.channelsIDM channel = cached :=
    mem_looked (fun _ => mem_candidateChannels) stored
  have present : ∀ id ∈ candidateChannels env (old.swap db.channels) group model requestPath,
      ∃ channel, (old.swap db.channels).channelsIDM.find? id = some channel := by
    intro _ mem
    obtain ⟨channel, listed, rfl⟩ := mem_candidateChannels.mp mem
    rw [find?_swap, find?_eq_some.mpr ⟨stored channel listed, rfl⟩]
    exact ⟨_, rfl⟩
  have same : level ((candidateChannels env (old.swap db.channels) group model requestPath).filterMap
      (old.swap db.channels).channelsIDM.find?) retry =
        level (cachedCandidates env db group model requestPath) retry := by
    apply levelAt_congr
    intro _
    simp only [List.mem_map, looked]
    constructor
    · rintro ⟨_, ⟨channel, listed, rfl⟩, rfl⟩
      exact ⟨channel, listed, (keepPollingIndex_priority _ _).symm⟩
    · rintro ⟨channel, listed, rfl⟩
      exact ⟨_, ⟨channel, listed, rfl⟩, keepPollingIndex_priority _ _⟩
  rw [cachedDraw_eq present]
  simp only [List.mem_filter, looked, same, decide_eq_true_eq]
  constructor
  · rintro ⟨⟨channel, listed, rfl⟩, chosen⟩
    exact ⟨channel, listed, rfl, by rw [chosen, keepPollingIndex_priority]⟩
  · rintro ⟨channel, listed, rfl, chosen⟩
    exact ⟨⟨channel, listed, rfl⟩, by rw [chosen, keepPollingIndex_priority]⟩

end Cached

/-! ## The draw without the cache -/

def queriedDraw (env : ChannelEnv) (db : ChannelDb) (group model : String) (retry : Nat)
    (requestPath : String) : List Ability :=
  match getChannelQuery db group model retry with
  | .ok found => filterAbilitiesByRequestPathAndModel env db model
      (found.orderBy fun one two => two.weight ≤ one.weight).rows requestPath
  | .error _ => []

section Queried
variable {env : ChannelEnv} {db : ChannelDb} {group model requestPath : String} {ability : Ability}

theorem mem_enabledAbilities (inStep : InStep db) :
    ability ∈ (enabledAbilities db group model).rows ↔ ∃ channel ∈ serving db group model,
      channel.ability group model = ability := by
  unfold enabledAbilities
  rw [mem_filter]
  simp only [decide_eq_true_eq]
  constructor
  · rintro ⟨listed, rfl, rfl, enabled⟩
    obtain ⟨channel, stored, own⟩ := inStep.owned ability listed
    obtain ⟨_, grouped, _, served, rfl⟩ := (inStep.mirrored channel stored ability).mp ⟨listed, own.symm⟩
    exact ⟨channel, mem_serving.mpr ⟨stored, by simpa [Channel.ability] using enabled, grouped, served⟩, rfl⟩
  · rintro ⟨channel, served, rfl⟩
    obtain ⟨stored, enabled, grouped, modelled⟩ := mem_serving.mp served
    exact ⟨((inStep.mirrored channel stored _).mpr ⟨group, grouped, model, modelled, rfl⟩).1, rfl,
      rfl, by simp [Channel.ability, enabled]⟩

theorem level_serving (inStep : InStep db) (retry : Nat) :
    level (serving db group model) retry = levelAt ((enabledAbilities db group model).rows.map (·.priority)) retry := by
  apply levelAt_congr
  intro _
  simp only [List.mem_map, mem_enabledAbilities inStep]
  constructor
  · rintro ⟨channel, served, rfl⟩
    exact ⟨_, ⟨channel, served, rfl⟩, rfl⟩
  · rintro ⟨_, ⟨channel, served, rfl⟩, rfl⟩
    exact ⟨channel, served, rfl⟩

theorem levelAt_max {values : List Int} {value : Int} : values.max? = some value ↔ levelAt values 0 = some value := by
  cases highest : values.max? with
  | none => simp [List.max?_eq_none_iff.mp highest]
  | some =>
    obtain ⟨mem, bound⟩ := List.max?_eq_some_iff.mp highest
    rw [levelAt_zero mem bound]

theorem getPriority_eq : getPriority db group model retry =
    (levelAt ((enabledAbilities db group model).rows.map (·.priority)) retry).elim (.error "数据库一致性被破坏") .ok := by
  unfold getPriority levelAt levels
  dsimp only
  generalize ((enabledAbilities db group model).rows.map (·.priority)).dedup.insertionSort (· ≥ ·) = priorities
  cases last : priorities.getLast? with
  | none => simp [List.getLast?_eq_none_iff.mp last]
  | some =>
    rw [List.getLast?_eq_getElem?] at last
    have bound : priorities.length - 1 < priorities.length := (List.getElem?_eq_some_iff.mp last).1
    by_cases inside : retry < priorities.length
    · rw [show min retry (priorities.length - 1) = retry by omega, List.getElem?_eq_getElem inside]
      rfl
    · rw [show min retry (priorities.length - 1) = priorities.length - 1 by omega, last,
        List.getElem?_eq_none (by omega)]
      rfl

theorem mem_getChannelQuery (inStep : InStep db) {found} (queried : getChannelQuery db group model retry = .ok found) :
    ability ∈ found.rows ↔ ∃ channel ∈ serving db group model, channel.ability group model = ability ∧
      level (serving db group model) retry = some channel.getPriority := by
  have level_filter : ability ∈ found.rows ↔ ability ∈ (enabledAbilities db group model).rows ∧
      level (serving db group model) retry = some ability.priority := by
    rw [level_serving inStep]
    unfold getChannelQuery at queried
    dsimp only at queried
    split_ifs at queried with first
    · cases queried
      rw [mem_filter, decide_eq_true_eq, levelAt_max, first]
    · rw [getPriority_eq] at queried
      cases chosen : levelAt ((enabledAbilities db group model).rows.map (·.priority)) retry with
      | none => simp [chosen, bind, Except.bind] at queried
      | some =>
        simp only [chosen, Option.elim_some, bind, Except.bind, pure, Except.pure, Except.ok.injEq] at queried
        subst queried
        rw [mem_filter, decide_eq_true_eq, Option.some.injEq, eq_comm]
  rw [level_filter, mem_enabledAbilities inStep]
  constructor
  · rintro ⟨⟨channel, served, rfl⟩, chosen⟩
    exact ⟨channel, served, rfl, chosen⟩
  · rintro ⟨channel, served, rfl, chosen⟩
    exact ⟨⟨channel, served, rfl⟩, chosen⟩

theorem getChannelQuery_error (inStep : InStep db) {reason}
    (queried : getChannelQuery db group model retry = .error reason) :
    serving db group model = [] := by
  by_contra some
  obtain ⟨_, chosen⟩ := level_some some retry
  rw [level_serving inStep] at chosen
  unfold getChannelQuery at queried
  dsimp only at queried
  split_ifs at queried
  simp [getPriority_eq, chosen, bind, Except.bind, pure, Except.pure] at queried

theorem mem_filterAbilities {abilities channel} (stored : channel ∈ db.channels.rows) :
    channel.ability group model ∈ filterAbilitiesByRequestPathAndModel env db model abilities requestPath ↔
      channel.ability group model ∈ abilities ∧ servesPath env model requestPath channel = true := by
  have found : db.channels.find? (channel.ability group model).channelId = some channel :=
    find?_eq_some.mpr ⟨stored, rfl⟩
  unfold filterAbilitiesByRequestPathAndModel
  split_ifs with path
  · simp [servesPath, path]
  · simp only [List.mem_filter, found]
    simp [servesPath, path]

theorem mem_queriedDraw (inStep : InStep db) : ability ∈ queriedDraw env db group model retry requestPath ↔
      ∃ channel ∈ servingPath env db group model requestPath model, channel.ability group model = ability ∧
        level (serving db group model) retry = some channel.getPriority := by
  unfold queriedDraw
  cases queried : getChannelQuery db group model retry with
  | error => simp [servingPath, getChannelQuery_error inStep queried]
  | ok found =>
    have ordered : ability ∈ (found.orderBy fun one two => two.weight ≤ one.weight).rows ↔
      ability ∈ found.rows := mem_orderBy
    constructor
    · intro mem
      have kept := ordered.mp (mem_of_filterAbilities mem)
      obtain ⟨channel, served, rfl, chosen⟩ := (mem_getChannelQuery inStep queried).mp kept
      have serves := ((mem_filterAbilities (mem_serving.mp served).1).mp mem).2
      exact ⟨channel, List.mem_filter.mpr ⟨served, serves⟩, rfl, chosen⟩
    · rintro ⟨channel, mem, rfl, chosen⟩
      obtain ⟨served, serves⟩ := List.mem_filter.mp mem
      refine (mem_filterAbilities (mem_serving.mp served).1).mpr ⟨ordered.mpr ?_, serves⟩
      exact (mem_getChannelQuery inStep queried).mpr ⟨channel, served, rfl, chosen⟩

end Queried

/-! ## The draws find a channel -/

section Draws
variable {env : ChannelEnv} {db : ChannelDb} {group model requestPath : String} {channel : Channel}

theorem pickChannel_eq (factor adjustment : Nat) (channels) (value : Nat) :
    pickChannel factor adjustment channels value =
      pickWeighted (fun channel => channel.getWeight * factor + adjustment) channels value := by
  induction channels generalizing value with
  | nil => rfl
  | cons first _ ih =>
    unfold pickChannel pickWeighted
    dsimp only
    by_cases taken : value < first.getWeight * factor + adjustment
    · rw [if_pos taken, if_pos (by omega)]
    · rw [if_neg taken, if_neg (by omega), ← ih]
      congr 1
      omega

def smoothing (channels : List Channel) : Nat × Nat :=
  let sumWeight := (channels.map Channel.getWeight).sum
  if sumWeight = 0 then (1, 100) else if sumWeight / channels.length < 10 then (100, 0) else (1, 0)

def effectiveWeight (channels : List Channel) (channel : Channel) : Nat :=
  channel.getWeight * (smoothing channels).1 + (smoothing channels).2

def totalWeight (channels : List Channel) : Nat := (channels.map (effectiveWeight channels)).sum

theorem totalWeight_eq (channels) : totalWeight channels =
    (channels.map Channel.getWeight).sum * (smoothing channels).1 + channels.length * (smoothing channels).2 := by
  have scaled (factor adjustment : Nat) : (channels.map fun channel => channel.getWeight * factor + adjustment).sum =
      (channels.map Channel.getWeight).sum * factor + channels.length * adjustment := by
    induction channels with
    | nil => simp
    | cons _ _ ih =>
      simp only [List.map_cons, List.sum_cons, List.length_cons, ih]
      ring
  exact scaled _ _

theorem totalWeight_pos {channels} (present : channels ≠ []) : 0 < totalWeight channels := by
  have many : 0 < channels.length := List.length_pos_iff.mpr present
  rw [totalWeight_eq, smoothing]
  split_ifs <;> omega

theorem drawChannel_eq (channels) (draw : Nat) :
    drawChannel channels draw = pickWeighted (effectiveWeight channels) channels (draw % totalWeight channels) := by
  have same : drawChannel channels draw =
      pickChannel (smoothing channels).1 (smoothing channels).2 channels (draw % totalWeight channels : Nat) := by
    rw [totalWeight_eq]
    unfold drawChannel smoothing
    dsimp only
    split_ifs with weightless <;> simp [weightless]
  rw [same, pickChannel_eq]
  rfl

theorem drawChannel_some {channels} (present : channels ≠ []) (draw : Nat) :
    ∃ channel ∈ channels, drawChannel channels draw = some channel := by
  rw [drawChannel_eq]
  exact pickWeighted_some (Nat.mod_lt draw (totalWeight_pos present))

section Abilities
variable {abilities : List Ability} (fits : (abilities.map fun ability => ability.weight + 10).sum < 2 ^ 63)
include fits

theorem pickAbility_zero : pickAbility abilities 0 = abilities.head? := by
  cases abilities with
  | nil => rfl
  | cons =>
    rw [List.map_cons, List.sum_cons] at fits
    rw [pickAbility, wrap64_fits (by omega) (by omega)]
    exact if_pos (by omega)

theorem pickAbility_succ {value : Nat} (below : value + 1 < 2 ^ 63) :
    pickAbility abilities (value + 1 : Nat) = pickWeighted (fun ability => ability.weight + 10) abilities value := by
  induction abilities generalizing value with
  | nil => rfl
  | cons first _ ih =>
    rw [List.map_cons, List.sum_cons] at fits
    unfold pickAbility pickWeighted
    dsimp only
    rw [wrap64_fits (by omega) (by omega)]
    by_cases taken : value < first.weight + 10
    · rw [if_pos taken, if_pos (by omega)]
    · rw [if_neg taken, if_neg (by omega), ← ih (by omega) (by omega)]
      congr 1
      omega

theorem pickAbility_some {weight : Nat} (below : weight < (abilities.map fun ability => ability.weight + 10).sum) :
    ∃ ability ∈ abilities, pickAbility abilities weight = some ability := by
  cases weight with
  | zero =>
    rw [Nat.cast_zero, pickAbility_zero fits]
    cases abilities with
    | nil => simp at below
    | cons first => exact ⟨first, by simp, rfl⟩
  | succ =>
    rw [pickAbility_succ fits (by omega)]
    exact pickWeighted_some (by omega)

end Abilities

theorem getRandom_cases (env cache) (group model requestPath : String) (retry draw : Nat) :
    (cachedDraw env cache group model retry requestPath = [] ∧
      ∀ channel, getRandomSatisfiedChannel env cache group model retry requestPath draw ≠ .ok (some channel)) ∨
    ∃ channel ∈ cachedDraw env cache group model retry requestPath,
      getRandomSatisfiedChannel env cache group model retry requestPath draw = .ok (some channel) := by
  unfold getRandomSatisfiedChannel cachedDraw
  cases shape : candidateChannels env cache group model requestPath with
  | nil => simp [pure, Except.pure]
  | cons first others =>
    cases others with
    | nil =>
      cases looked : lookupChannels cache [first] with
      | error => simp [looked, bind, Except.bind, Except.toOption]
      | ok channels => cases channels <;> simp [looked, bind, Except.bind, pure, Except.pure, Except.toOption]
    | cons second rest =>
      cases target : targetChannels cache (first :: second :: rest) retry with
      | error => simp [target, bind, Except.bind, Except.toOption]
      | ok channels =>
        simp only [target, bind, Except.bind, Except.toOption, Option.getD_some]
        by_cases none : channels = []
        · subst none
          simp [drawChannel, pickChannel, throw, throwThe, MonadExceptOf.throw]
        · obtain ⟨channel, mem, drawn⟩ := drawChannel_some none draw
          exact .inr ⟨channel, mem, by simp [drawn, pure, Except.pure]⟩

theorem getRandom_some (draw : Nat) :
    (∃ channel, getRandomSatisfiedChannel env cache group model retry requestPath draw = .ok (some channel)) ↔
      cachedDraw env cache group model retry requestPath ≠ [] := by
  rcases getRandom_cases env cache group model requestPath retry draw with ⟨nothing, unfound⟩ | ⟨channel, mem, found⟩
  · simp [nothing, unfound]
  · exact ⟨fun _ => List.ne_nil_of_mem mem, fun _ => ⟨channel, found⟩⟩

theorem getRandom_mem {channel} (found : getRandomSatisfiedChannel env cache group model retry
    requestPath draw = .ok (some channel)) :
    channel ∈ cachedDraw env cache group model retry requestPath := by
  rcases getRandom_cases env cache group model requestPath retry draw with ⟨-, unfound⟩ | ⟨_, mem, same⟩
  · exact absurd found (unfound channel)
  · rw [found] at same
    cases same
    exact mem

theorem getRandom_priority (env db) (old : ChannelCache) (group model requestPath : String) (retry draw : Nat) :
    (getRandomSatisfiedChannel env (old.swap db.channels) group model retry requestPath
      draw).toOption.join.map Channel.getPriority =
      level (cachedCandidates env db group model requestPath) retry := by
  cases answer :
    (getRandomSatisfiedChannel env (old.swap db.channels) group model retry requestPath
    draw).toOption.join with
  | some channel =>
    have found : getRandomSatisfiedChannel env (old.swap db.channels) group model retry requestPath
      draw = .ok (some channel) := by
      cases result : getRandomSatisfiedChannel env (old.swap db.channels) group model retry requestPath draw with
      | error => simp [result, Except.toOption] at answer
      | ok => simpa [result, Except.toOption] using answer
    obtain ⟨_, -, rfl, chosen⟩ := mem_cachedDraw.mp (getRandom_mem found)
    rw [chosen, Option.map_some, keepPollingIndex_priority]
  | none =>
    have empty : cachedDraw env (old.swap db.channels) group model retry requestPath = [] := by
      by_contra present
      obtain ⟨_, found⟩ := (getRandom_some draw).mpr present
      rw [found] at answer
      cases answer
    cases chosen : level (cachedCandidates env db group model requestPath) retry with
    | none => rfl
    | some =>
      obtain ⟨row, mem, rfl⟩ := level_mem chosen
      have drawn : keepPollingIndex old.channelsIDM row ∈
        cachedDraw env (old.swap db.channels) group model retry requestPath :=
        mem_cachedDraw.mpr ⟨row, mem, rfl, chosen⟩
      rw [empty] at drawn
      cases drawn

theorem getChannel_some (inStep : InStep db)
    (fits : ((queriedDraw env db group model retry requestPath).map fun ability =>
    ability.weight + 10).sum < 2 ^ 63) (draw : Nat) :
    (∃ channel, getChannel env db group model retry requestPath draw = .ok (some channel)) ↔
      queriedDraw env db group model retry requestPath ≠ [] := by
  have owned (ability : Ability) (mem : ability ∈ queriedDraw env db group model retry requestPath) :
      ∃ channel, db.channels.find? ability.channelId = some channel := by
    obtain ⟨channel, served, rfl, -⟩ := (mem_queriedDraw inStep).mp mem
    exact ⟨channel, find?_eq_some.mpr ⟨(mem_serving.mp (List.mem_filter.mp served).1).1, rfl⟩⟩
  unfold getChannel queriedDraw
  unfold queriedDraw at owned fits
  cases queried : getChannelQuery db group model retry with
  | error => simp [bind, Except.bind]
  | ok found =>
    simp only [queried] at owned fits
    simp only [bind, Except.bind]
    generalize filterAbilitiesByRequestPathAndModel env db model
      (found.orderBy fun one two => two.weight ≤ one.weight).rows requestPath = abilities at *
    by_cases none : abilities = []
    · simp [none, pure, Except.pure]
    · have pos : 0 < (abilities.map fun ability => ability.weight + 10).sum := by
        cases abilities with
        | nil => exact absurd rfl none
        | cons =>
          rw [List.map_cons, List.sum_cons]
          omega
      have whole : weightSum abilities = ((abilities.map fun ability => ability.weight + 10).sum : Nat) :=
        wrap64_fits (by omega) (by omega)
      obtain ⟨ability, mem, picked⟩ := pickAbility_some fits (Nat.mod_lt draw pos)
      obtain ⟨_, stored⟩ := owned ability mem
      rw [Int.natCast_emod, ← whole] at picked
      simp only [if_neg none, if_neg (show ¬weightSum abilities ≤ 0 by omega), picked,
        Option.bind_some, stored, pure, Except.pure, Except.ok.injEq, Option.some.injEq, exists_eq', ne_eq]
      exact iff_of_true trivial none

end Draws

/-! ## Agreement -/

/-- How many priorities of the channels that cannot serve the path stand on either side of one. -/
def unroutable (env : ChannelEnv) (db : ChannelDb) (group model requestPath : String) (beyond : Int → Bool) : Nat :=
  (levels ((serving db group model).map Channel.getPriority)).countP fun other =>
    beyond other ∧ other ∉ (servingPath env db group model requestPath model).map Channel.getPriority

structure LevelsKept (env : ChannelEnv) (db : ChannelDb) (group model : String) (retry : Nat)
    (requestPath : String) : Prop where
  normalized : servingPath env db group model requestPath model = [] →
    servingPath env db group model requestPath (formatMatchingModelName model) = []
  ranked : ∀ priority, level (servingPath env db group model requestPath model) retry = some priority →
    Unshifted (levels ((servingPath env db group model requestPath model).map Channel.getPriority)).length retry
      (unroutable env db group model requestPath (priority < ·))
        (unroutable env db group model requestPath (· < priority))

/-- The range of either draw is within an `int`. -/
structure DrawsFit (env : ChannelEnv) (db : ChannelDb) (cache : ChannelCache) (group model : String) (retry : Nat)
    (requestPath : String) : Prop where
  queried : ((queriedDraw env db group model retry requestPath).map fun ability => ability.weight + 10).sum < 2 ^ 63
  cached : totalWeight (cachedDraw env cache group model retry requestPath) < 2 ^ 63

structure SelectorsAgree (env : ChannelEnv) (db : ChannelDb) (cache : ChannelCache) (group model : String) (retry : Nat)
    (requestPath : String) : Prop where
  channels : ∀ id, id ∈ (cachedDraw env cache group model retry requestPath).map (·.id) ↔
    id ∈ (queriedDraw env db group model retry requestPath).map (·.channelId)
  priority : ∀ channel ∈ cachedDraw env cache group model retry requestPath,
    ∀ ability ∈ queriedDraw env db group model retry requestPath, channel.getPriority = ability.priority
  found : ∀ draw draw', (∃ channel, getRandomSatisfiedChannel env cache group model retry
    requestPath draw = .ok (some channel)) ↔
    ∃ channel, getChannel env db group model retry requestPath draw' = .ok (some channel)

section Agreement
variable {env : ChannelEnv} {db : ChannelDb} {group model requestPath : String}

theorem mem_cachedIds {id} : id ∈ (cachedDraw env (old.swap db.channels) group model retry requestPath).map (·.id) ↔
    ∃ channel ∈ cachedCandidates env db group model requestPath, channel.id = id ∧
      level (cachedCandidates env db group model requestPath) retry = some channel.getPriority := by
  simp only [List.mem_map, mem_cachedDraw]
  constructor
  · rintro ⟨_, ⟨channel, mem, rfl, chosen⟩, rfl⟩
    exact ⟨channel, mem, (keepPollingIndex_id _ _).symm, chosen⟩
  · rintro ⟨channel, mem, rfl, chosen⟩
    exact ⟨_, ⟨channel, mem, rfl, chosen⟩, keepPollingIndex_id _ _⟩

theorem mem_queriedIds (inStep : InStep db) {id} : id ∈
    (queriedDraw env db group model retry requestPath).map (·.channelId) ↔
    ∃ channel ∈ servingPath env db group model requestPath model, channel.id = id ∧
      level (serving db group model) retry = some channel.getPriority := by
  simp only [List.mem_map, mem_queriedDraw inStep]
  constructor
  · rintro ⟨_, ⟨channel, mem, rfl, chosen⟩, rfl⟩
    exact ⟨channel, mem, rfl, chosen⟩
  · rintro ⟨channel, mem, rfl, chosen⟩
    exact ⟨_, ⟨channel, mem, rfl, chosen⟩, rfl⟩

theorem level_kept_iff {priority} (chosen : level (servingPath env db group model requestPath model)
    retry = some priority) :
    level (serving db group model) retry = some priority ↔
      Unshifted (levels ((servingPath env db group model requestPath model).map Channel.getPriority)).length retry
        (unroutable env db group model requestPath (priority < ·))
          (unroutable env db group model requestPath (· < priority)) := by
  have more : ∀ other ∈ (servingPath env db group model requestPath model).map Channel.getPriority,
      other ∈ (serving db group model).map Channel.getPriority :=
    fun _ mem => List.map_subset _ (List.filter_subset_self _) mem
  unfold unroutable
  simp only [decide_eq_true_eq]
  exact levelAt_kept_iff more chosen

theorem draws_agree_iff (inStep : InStep db) :
    (∀ id, id ∈ (cachedDraw env (old.swap db.channels) group model retry requestPath).map (·.id) ↔
      id ∈ (queriedDraw env db group model retry requestPath).map (·.channelId)) ↔
        LevelsKept env db group model retry requestPath := by
  simp only [mem_cachedIds, mem_queriedIds inStep]
  by_cases none : servingPath env db group model requestPath model = []
  · have candidates : cachedCandidates env db group model requestPath =
        servingPath env db group model requestPath
          (formatMatchingModelName model) := by rw [cachedCandidates, if_pos none]
    rw [candidates, none]
    constructor
    · intro agree
      refine ⟨fun _ => ?_, fun _ chosen => by rw [none] at chosen; cases chosen⟩
      -- A channel under the normalized name would be drawn by the cached selector alone.
      by_contra some
      obtain ⟨_, chosen⟩ := level_some some retry
      obtain ⟨channel, mem, rfl⟩ := level_mem chosen
      obtain ⟨_, bad, -⟩ := (agree channel.id).mp ⟨channel, mem, rfl, chosen⟩
      simp at bad
    · intro kept id
      rw [kept.normalized none]
      simp
  · have candidates : cachedCandidates env db group model requestPath =
      servingPath env db group model requestPath model := by
      rw [cachedCandidates, if_neg none]
    rw [candidates]
    constructor
    · intro agree
      refine ⟨fun bad => absurd bad none, fun _ chosen => ?_⟩
      obtain ⟨channel, mem, rfl⟩ := level_mem chosen
      obtain ⟨_, among, same, level⟩ := (agree channel.id).mp ⟨channel, mem, rfl, chosen⟩
      rw [eq_of_key (servingPath_stored among) (servingPath_stored mem) same] at level
      exact (level_kept_iff chosen).mp level
    · intro kept _
      obtain ⟨_, chosen⟩ := level_some none retry
      rw [(level_kept_iff chosen).mpr (kept.ranked _ chosen), chosen]

end Agreement

def familyDb : ChannelDb :=
  administer {} emptyDb [.insert { id := Nat.toPNat' 1, models := "gpt-4-gizmo-*" } (Nat.toPNat' 1),
    .insert { id := 2, type := 58, models := "o", priority := some 9 } 2,
    .insert { id := 3, models := "o" } 3]

def noRoutes : ChannelEnv := { supportsPathForModel := fun _ _ _ => false }

theorem familyDb_inStep : InStep familyDb where
  mirrored := by
    apply run_invariant (mirrored_step {}) (fun _ mem => by cases mem)
    exact ⟨⟨by decide +kernel, by decide +kernel⟩, ⟨by decide +kernel, by decide +kernel⟩,
      ⟨by decide +kernel, by decide +kernel⟩, trivial⟩
  owned := by decide +kernel

end NewApi.Proof
