import NewApi.Model.Channel

/-! # Abilities mirror channels -/

namespace NewApi.Proof
open Library Model Table TagEdit
variable {channel : Channel} {ability : Ability} {env : ChannelEnv} {db : ChannelDb}

def Shows (channel : Channel) (abilities : AbilityTable) : Prop :=
  ∀ ability, ability ∈ abilities.rows ∧ ability.channelId = channel.id ↔
    ∃ group ∈ channel.groupNames, ∃ model ∈ channel.modelNames, channel.ability group model = ability

def Mirrored (db : ChannelDb) : Prop := ∀ channel ∈ db.channels.rows, Shows channel db.abilities

def NamesApart (channel : Channel) : Prop :=
  ∀ one ∈ channel.pairs, ∀ two ∈ channel.pairs, Channel.pairKey one = Channel.pairKey two → one = two

instance (channel : Channel) : Decidable (NamesApart channel) :=
  inferInstanceAs (Decidable (∀ one ∈ channel.pairs, ∀ two ∈ channel.pairs, Channel.pairKey one =
    Channel.pairKey two → one = two))

/-! ## Abilities that are created -/

section Create
variable {other : Channel} {abilities : AbilityTable}

theorem mem_pairs {pair} : pair ∈ channel.pairs ↔ pair.1 ∈ channel.groupNames ∧ pair.2 ∈ channel.modelNames := by
  obtain ⟨_, _⟩ := pair
  simp [Channel.pairs, and_comm]

theorem mem_distinctPairs (apart : NamesApart channel) {pair} :
    pair ∈ channel.distinctPairs.rows ↔ pair.1 ∈ channel.groupNames ∧ pair.2 ∈ channel.modelNames := by
  have inserted : pair ∈ channel.distinctPairs.rows ↔ pair ∈ (empty : Table Channel.pairKey).rows ∨
    pair ∈ channel.pairs :=
    mem_insertAll_iff (by simp [empty]) apart
  rw [inserted, mem_pairs]
  simp [empty]

theorem addAbilities_elsewhere (apart : ability.channelId ≠ channel.id) :
    ability ∈ (channel.addAbilities abilities).rows ↔ ability ∈ abilities.rows := by
  constructor
  · intro mem
    rcases mem_insertAll mem with old | new
    · exact old
    · obtain ⟨_, -, rfl⟩ := List.mem_map.mp new
      exact absurd rfl apart
  · exact mem_insertAll_of_mem

theorem addAbilities_shows (apart : NamesApart channel)
    (fresh : ∀ ability ∈ abilities.rows, ability.channelId ≠ channel.id) :
    Shows channel (channel.addAbilities abilities) := by
  intro ability
  have inserted : ability ∈ (channel.addAbilities abilities).rows ↔ ability ∈ abilities.rows ∨
      ability ∈ channel.distinctPairs.rows.map fun pair => channel.ability pair.1 pair.2 := by
    refine mem_insertAll_iff (fun new listed old stored same => ?_) fun _ listed _ listed' same => ?_
    · obtain ⟨_, -, rfl⟩ := List.mem_map.mp listed
      exact fresh old stored (congrArg (fun key => key.2.2) same)
    · obtain ⟨_, -, rfl⟩ := List.mem_map.mp listed
      obtain ⟨_, -, rfl⟩ := List.mem_map.mp listed'
      simp only [Ability.key, Channel.ability, Prod.mk.injEq] at same
      simp only [same.1, same.2.1]
  rw [inserted]
  constructor
  · rintro ⟨old | new, own⟩
    · exact absurd own (fresh ability old)
    · obtain ⟨pair, listed, rfl⟩ := List.mem_map.mp new
      obtain ⟨group, model⟩ := (mem_distinctPairs apart).mp listed
      exact ⟨pair.1, group, pair.2, model, rfl⟩
  · rintro ⟨group, grouped, model, served, rfl⟩
    exact ⟨.inr (List.mem_map.mpr ⟨(group, model), (mem_distinctPairs apart).mpr ⟨grouped, served⟩, rfl⟩), rfl⟩

theorem updateAbilities_shows (apart : NamesApart channel) : Shows channel (channel.updateAbilities abilities) :=
  addAbilities_shows apart fun _ stored => (mem_deleteWhere.mp stored).2

theorem shows_elsewhere {after} (same : ∀ ability, ability.channelId = other.id →
    (ability ∈ after.rows ↔ ability ∈ abilities.rows))
    (shows : Shows other abilities) : Shows other after := by
  intro ability
  rw [← shows ability]
  constructor
  · rintro ⟨mem, own⟩
    exact ⟨(same ability own).mp mem, own⟩
  · rintro ⟨mem, own⟩
    exact ⟨(same ability own).mpr mem, own⟩

theorem updateAbilities_elsewhere (ne : other.id ≠ channel.id) (shows : Shows other abilities) :
    Shows other (channel.updateAbilities abilities) := by
  refine shows_elsewhere (fun _ own => ?_) shows
  rw [Channel.updateAbilities, addAbilities_elsewhere (own ▸ ne), mem_deleteWhere]
  exact ⟨And.left, fun mem => ⟨mem, own ▸ ne⟩⟩

theorem recreated_shows {channels : List Channel} (apart : ∀ one ∈ channels, NamesApart one)
    (unique : ∀ one ∈ channels, one.id = channel.id → one = channel)
    (shown : channel ∈ channels ∨ Shows channel abilities) :
    Shows channel (channels.foldl (fun abilities one => one.updateAbilities abilities) abilities) := by
  induction channels generalizing abilities with
  | nil => exact shown.resolve_left (by simp)
  | cons one _ ih =>
    refine ih (fun two among => apart two (by simp [among])) (fun two among => unique two (by simp [among])) ?_
    by_cases same : one.id = channel.id
    · obtain rfl := unique one (by simp) same
      exact .inr (updateAbilities_shows (apart one (by simp)))
    · rcases shown with among | shows
      · rcases List.mem_cons.mp among with rfl | later
        · exact absurd rfl same
        · exact .inl later
      · exact .inr (updateAbilities_elsewhere (Ne.symm same) shows)

end Create

/-! ## Tables that change together -/

section Together
variable {after : ChannelDb}

theorem mirrored_together {f : Channel → Channel} {g : Ability → Ability}
    (channels : ∀ channel, channel ∈ after.channels.rows ↔ ∃ old ∈ db.channels.rows, f old = channel)
    (abilities : ∀ ability, ability ∈ after.abilities.rows ↔ ∃ old ∈ db.abilities.rows, g old = ability)
    (own : ∀ ability, (g ability).channelId = ability.channelId)
    (keeps : ∀ channel ∈ db.channels.rows, (f channel).id = channel.id ∧
    (f channel).group = channel.group ∧ (f channel).models = channel.models)
    (together : ∀ channel ∈ db.channels.rows, ∀ group model, g (channel.ability group model) =
    (f channel).ability group model)
    (mirrored : Mirrored db) : Mirrored after := by
  intro channel' mem ability'
  obtain ⟨channel, stored, rfl⟩ := (channels channel').mp mem
  obtain ⟨id, group, models⟩ := keeps channel stored
  simp only [id, Channel.groupNames, group, Channel.modelNames, models]
  constructor
  · rintro ⟨listed, ofChannel⟩
    obtain ⟨ability, before, rfl⟩ := (abilities ability').mp listed
    rw [own] at ofChannel
    obtain ⟨group, grouped, model, served, rfl⟩ := (mirrored channel stored ability).mp ⟨before, ofChannel⟩
    exact ⟨group, grouped, model, served, (together channel stored group model).symm⟩
  · rintro ⟨group, grouped, model, served, rfl⟩
    obtain ⟨listed, -⟩ := (mirrored channel stored (channel.ability group model)).mpr
      ⟨group, grouped, model, served, rfl⟩
    exact ⟨(abilities _).mpr ⟨_, listed, together channel stored group model⟩, id⟩

theorem mirrored_statusByTag (tag : String) (status : Int) (mirrored : Mirrored db) :
    Mirrored (setStatusByTag tag status db) := by
  refine mirrored_together (fun _ => List.mem_map) (fun _ => List.mem_map) (fun ability => ?_) (fun channel _ => ?_)
    (fun channel _ _ _ => ?_) mirrored
  · split_ifs <;> rfl
  · split_ifs <;> exact ⟨rfl, rfl, rfl⟩
  · by_cases tagged : channel.tag = some tag
    · simp [Channel.ability, tagged, Channel.getPriority, Channel.getWeight]
    · simp [Channel.ability, tagged]

theorem mirrored_editTogether {tag : String} {edit} (kept : edit.shouldReCreateAbilities = false)
    (weight : edit.weight = some 0 → ∀ channel ∈ db.channels.rows, channel.tag = some tag →
    channel.getWeight = 0) (mirrored : Mirrored db) :
    Mirrored (editChannelByTag tag edit db) := by
  unfold editChannelByTag
  simp only [kept]
  simp only [shouldReCreateAbilities, Bool.or_eq_false_iff, Option.isSome_eq_false_iff,
    Option.isNone_iff_eq_none] at kept
  refine mirrored_together (fun _ => List.mem_map) (fun _ => List.mem_map) (fun ability => ?_) (fun channel _ => ?_)
    (fun channel stored _ _ => ?_) mirrored
  · split_ifs <;> rfl
  · split_ifs
    · simp only [apply, kept.1, kept.2, Option.getD_none, and_self]
    · exact ⟨rfl, rfl, rfl⟩
  · by_cases tagged : channel.tag = some tag
    · have priority : edit.priority.getD channel.getPriority = (edit.apply channel).getPriority := by
        cases given : edit.priority <;> simp [TagEdit.apply, Channel.getPriority, given]
      have weighed : (if edit.weight.getD 0 = 0 then channel.getWeight else edit.weight.getD 0) =
        (edit.apply channel).getWeight := by
        cases given : edit.weight with
        | none => simp [apply, Channel.getWeight, given]
        | some new =>
          by_cases zero : new = 0
          · subst zero
            simp only [Option.getD_some, if_true, weight given channel stored tagged]
            simp [apply, Channel.getWeight, given]
          · simp [apply, Channel.getWeight, given, zero]
      simp only [tagged, if_true, Channel.ability, priority, weighed]
      simp [apply, tagged]
    · simp [Channel.ability, tagged]

theorem enabled_key {keys index} (among : index < keys.length) (list : List (Nat × Int)) :
    hasEnabledMultiKey keys (list.filter fun entry => entry.1 ≠ index) = true := by
  have absent : (list.filter fun entry => entry.1 ≠ index).lookup index = none := by
    simp only [List.lookup_eq_none_iff, List.mem_filter, decide_eq_true_eq, bne_iff_ne]
    exact fun _ listed => Ne.symm listed.2
  simp only [hasEnabledMultiKey, List.any_eq_true, List.mem_range]
  exact ⟨index, among, by rw [absent]; rfl⟩

theorem handler_status (env channel) (usingKey : String) (status : Int) :
    ∃ info reached, handlerMultiKeyUpdate env channel usingKey status =
      { channel with channelInfo := info, status := reached } ∧
      (reached = channel.status ∨ (reached = channelStatusEnabled ↔ status = channelStatusEnabled)) := by
  unfold handlerMultiKeyUpdate
  by_cases empty : channel.getKeys env = []
  · simp only [empty, if_true]
    exact ⟨channel.channelInfo, status, rfl, .inr Iff.rfl⟩
  · simp only [empty, if_false]
    cases found : (channel.getKeys env).findIdx? (· = usingKey) with
    | none =>
      by_cases named : usingKey = ""
      · simp only [named, ne_eq, not_true_eq_false, if_false]
        exact ⟨channel.channelInfo, status, rfl, .inr Iff.rfl⟩
      · simp only [named, ne_eq, not_false_eq_true, if_true]
        exact ⟨channel.channelInfo, channel.status, rfl, .inl rfl⟩
    | some index =>
      refine ⟨_, _, rfl, ?_⟩
      by_cases enabled : status = channelStatusEnabled
      · obtain ⟨among, -⟩ := List.findIdx?_eq_some_iff_getElem.mp found
        simp only [enabled, if_true, enabled_key among]
        exact .inr (by simp)
      · simp only [enabled, if_false, iff_false]
        by_cases left : hasEnabledMultiKey (channel.getKeys env)
            ((index, status) :: channel.channelInfo.multiKeyStatusList.filter fun entry => entry.1 ≠ index) = false
        · simp only [left, if_true]
          exact .inr (by decide)
        · exact .inl (if_neg left)

theorem mirrored_reached {channel info} {reached : Int} {follow enabled : Bool} (stored : channel ∈ db.channels.rows)
    (right : decide (reached = channelStatusEnabled) = if follow then enabled else decide
    (channel.status = channelStatusEnabled))
    (mirrored : Mirrored db) : Mirrored {
      channels := db.channels.save { channel with channelInfo := info, status := reached }
      abilities := if follow then updateAbilityStatus channel.id enabled db.abilities else db.abilities } := by
  let g (ability : Ability) : Ability := if follow ∧ ability.channelId =
    channel.id then { ability with enabled := enabled } else ability
  refine mirrored_together (g := g) (fun _ => List.mem_map) (fun ability => ?_) (fun ability => ?_)
    (fun other among => ?_)
    (fun other among _ _ => ?_) mirrored
  · cases follow with
    | false => simp [g]
    | true =>
      simp only [g, if_true, true_and]
      exact List.mem_map
  · simp only [g]
    split_ifs <;> rfl
  · unfold replaceWith
    split_ifs with same
    · rw [eq_of_key among stored same]
      exact ⟨rfl, rfl, rfl⟩
    · exact ⟨rfl, rfl, rfl⟩
  · by_cases same : other.id = channel.id
    · obtain rfl := Table.eq_of_key among stored same
      cases follow <;> simp_all [g, Table.replaceWith, Channel.ability, Channel.getPriority, Channel.getWeight]
    · simp [g, replaceWith, same, Channel.ability]

theorem mirrored_status (env) (channelId : ℕ+) (usingKey : String) (status : Int) (mirrored : Mirrored db) :
    Mirrored (updateChannelStatus env channelId usingKey status db).1 := by
  unfold updateChannelStatus
  cases found : db.channels.find? channelId with
  | none => exact mirrored
  | some channel =>
    obtain ⟨stored, rfl⟩ := find?_eq_some.mp found
    by_cases same : channel.status = status
    · simp only [same, if_true]
      exact mirrored
    · simp only [same, if_false]
      by_cases multi : channel.channelInfo.isMultiKey = true
      · obtain ⟨_, reached, handled, follows⟩ := handler_status env channel usingKey status
        simp only [multi, if_true, handled]
        refine mirrored_reached stored ?_ mirrored
        by_cases still : channel.status = reached
        · simp [still]
        · simp [still, follows.resolve_left (Ne.symm still)]
      · simp only [multi]
        exact mirrored_reached stored (by simp) mirrored

end Together

/-! ## Rows that are written or deleted -/

section Rows

theorem mirrored_insert {channel : Channel} {id : ℕ+} (apart : NamesApart (channel.withDefaults id))
    (fresh : ∀ ability ∈ db.abilities.rows, ability.channelId ≠ id) (mirrored : Mirrored db) :
    Mirrored (channel.insert id db) := by
  unfold Channel.insert
  cases found : db.channels.find? id with
  | some => exact mirrored
  | none =>
    intro other mem
    rw [insert_rows found, List.mem_append, List.mem_singleton] at mem
    rcases mem with old | rfl
    · have ne : other.id ≠ id := find?_eq_none.mp found other old
      exact shows_elsewhere (fun _ own => addAbilities_elsewhere (own ▸ ne)) (mirrored other old)
    · exact addAbilities_shows apart fresh

theorem mirrored_update {channel : Channel}
    (apart : ∀ row, db.channels.find? channel.id = some row →
    NamesApart (row.updates (channel.countKeys env db))) (mirrored : Mirrored db) :
    Mirrored (channel.update env db) := by
  have sameId : (channel.countKeys env db).id = channel.id := by
    unfold Channel.countKeys
    split_ifs <;> rfl
  unfold Channel.update
  simp only [sameId]
  intro _ mem
  obtain ⟨row, stored, rfl⟩ := List.mem_map.mp mem
  by_cases same : row.id = channel.id
  · have found : db.channels.find? channel.id = some row := find?_eq_some.mpr ⟨stored, same⟩
    simp only [updateWhere, find?_modify, found, same, if_true, Option.map_some, Option.getD_some]
    exact updateAbilities_shows (apart row found)
  · simp only [same, if_false]
    refine updateAbilities_elsewhere ?_ (mirrored row stored)
    cases back : (db.channels.updateWhere (·.id = channel.id)
      (fun row => row.updates (channel.countKeys env db)) fun _ => rfl).find? channel.id with
    | none => exact fun equal => same (equal.trans sameId)
    | some => exact fun equal => same (equal.trans (find?_eq_some.mp back).2)

theorem mirrored_editAnew {tag : String} {edit : TagEdit} (anew : edit.shouldReCreateAbilities = true)
    (apart : ∀ channel ∈ (edit.channels tag db).rows, channel.tag = some (edit.updatedTag tag) →
    NamesApart channel) (mirrored : Mirrored db) :
    Mirrored (editChannelByTag tag edit db) := by
  unfold editChannelByTag
  simp only [anew, if_true]
  intro channel mem
  have chosen (one : Channel) : one ∈ ((edit.channels tag db).filter fun channel =>
    channel.tag = some (edit.updatedTag tag)).rows ↔
      one ∈ (edit.channels tag db).rows ∧ one.tag = some (edit.updatedTag tag) := by
    rw [mem_filter, decide_eq_true_eq]
  refine recreated_shows (fun one among => ?_) (fun one among same => ?_) ?_
  · obtain ⟨stored, tagged⟩ := (chosen one).mp among
    exact apart one stored tagged
  · exact eq_of_key ((chosen one).mp among).1 mem same
  · by_cases tagged : channel.tag = some (edit.updatedTag tag)
    · exact .inl ((chosen channel).mpr ⟨mem, tagged⟩)
    · -- A channel with another tag was not edited.
      obtain ⟨old, stored, rfl⟩ := List.mem_map.mp mem
      by_cases edited : old.tag = some tag
      · refine absurd ?_ tagged
        cases given : edit.newTag <;> simp [edited, apply, updatedTag, given]
      · simp only [edited, if_false]
        exact .inr (mirrored old stored)

theorem mirrored_batchSetTag {ids tag}
    (tagged : ∀ channel ∈ db.channels.rows, channel.id ∈ ids → channel.tag = tag ∧
    NamesApart channel) (mirrored : Mirrored db) :
    Mirrored (batchSetChannelTag ids tag db) := by
  have chosen (one : Channel) : one ∈ (db.channels.filter fun channel => channel.id ∈ ids).rows ↔
    one ∈ db.channels.rows ∧ one.id ∈ ids := by
    rw [mem_filter, decide_eq_true_eq]
  intro _ mem
  obtain ⟨old, stored, rfl⟩ := List.mem_map.mp mem
  have same : (if old.id ∈ ids then { old with tag := tag } else old) = old := by
    split_ifs with among
    · rw [← (tagged old stored among).1]
    · rfl
  rw [same]
  refine recreated_shows (fun one among => ?_) (fun one among equal => ?_) (.inr (mirrored old stored))
  · obtain ⟨stored, listed⟩ := (chosen one).mp among
    exact (tagged one stored listed).2
  · exact eq_of_key ((chosen one).mp among).1 stored equal

theorem mirrored_batchDelete (ids : List ℕ+) (mirrored : Mirrored db) : Mirrored (batchDeleteChannels ids db) := by
  intro channel mem
  obtain ⟨stored, left⟩ := mem_deleteWhere.mp mem
  refine shows_elsewhere (fun _ own => ?_) (mirrored channel stored)
  rw [batchDeleteChannels, mem_deleteWhere, own]
  exact ⟨And.left, fun listed => ⟨listed, left⟩⟩

theorem mirrored_deleteDisabled (mirrored : Mirrored db) : Mirrored (deleteDisabledChannel db) :=
  fun channel mem => mirrored channel (mem_deleteWhere.mp mem).1

theorem mirrored_fixAbility (apart : ∀ channel ∈ db.channels.rows, NamesApart channel) : Mirrored (fixAbility db) :=
  fun _ mem => recreated_shows apart (fun _ stored same => eq_of_key stored mem same) (.inl mem)

end Rows

/-! ## Runs -/

/-- Abilities are created for distinct names under an unused id, a tag gives a weight of 0 only to
channels that have it, and a batch sets only tags that are set. -/
def KeepsMirror (env : ChannelEnv) (db : ChannelDb) : AdminOp → Prop
  | .insert channel id => NamesApart (channel.withDefaults id) ∧ ∀ ability ∈ db.abilities.rows, ability.channelId ≠ id
  | .update channel => ∀ row, db.channels.find? channel.id = some row →
      NamesApart (row.updates (channel.countKeys env db))
  | .editByTag tag edit =>
    if edit.shouldReCreateAbilities then
      ∀ channel ∈ (edit.channels tag db).rows, channel.tag = some (edit.updatedTag tag) → NamesApart channel
    else edit.weight = some 0 → ∀ channel ∈ db.channels.rows, channel.tag = some tag → channel.getWeight = 0
  | .batchSetTag ids tag => ∀ channel ∈ db.channels.rows, channel.id ∈ ids → channel.tag = tag ∧ NamesApart channel
  | .fixAbility => ∀ channel ∈ db.channels.rows, NamesApart channel
  | _ => True

theorem mirrored_step (env : ChannelEnv) (db : ChannelDb) (op : AdminOp) (mirrored : Mirrored db)
    (keeps : KeepsMirror env db op) :
    Mirrored (adminStep env db op) := by
  cases op with
  | insert => exact mirrored_insert keeps.1 keeps.2 mirrored
  | update => exact mirrored_update keeps mirrored
  | updateStatus channelId usingKey status => exact mirrored_status env channelId usingKey status mirrored
  | enableByTag tag => exact mirrored_statusByTag tag _ mirrored
  | disableByTag tag => exact mirrored_statusByTag tag _ mirrored
  | editByTag _ edit =>
    simp only [KeepsMirror] at keeps
    cases anew : edit.shouldReCreateAbilities with
    | true =>
      rw [if_pos anew] at keeps
      exact mirrored_editAnew anew keeps mirrored
    | false =>
      rw [if_neg (by simp [anew])] at keeps
      exact mirrored_editTogether anew keeps mirrored
  | batchSetTag => exact mirrored_batchSetTag keeps mirrored
  | batchDelete ids => exact mirrored_batchDelete ids mirrored
  | deleteDisabled => exact mirrored_deleteDisabled mirrored
  | fixAbility => exact mirrored_fixAbility keeps

section Routing
variable {group model requestPath : String} {retry draw : Nat}

theorem pickAbility_mem {abilities weight} (picked : pickAbility abilities weight = some ability) :
    ability ∈ abilities := by
  induction abilities generalizing weight with
  | nil => cases picked
  | cons first _ ih =>
    unfold pickAbility at picked
    dsimp only at picked
    split_ifs at picked
    · cases picked
      simp
    · exact List.mem_cons_of_mem first (ih picked)

theorem mem_of_filterAbilities {abilities}
    (mem : ability ∈ filterAbilitiesByRequestPathAndModel env db model abilities requestPath) :
    ability ∈ abilities := by
  unfold filterAbilitiesByRequestPathAndModel at mem
  split_ifs at mem
  · exact mem
  · exact List.mem_of_mem_filter mem

theorem query_enabled {found} (queried : getChannelQuery db group model retry = .ok found)
    (mem : ability ∈ found.rows) :
    ability ∈ db.abilities.rows ∧ ability.enabled = true := by
  have among : ability ∈ (enabledAbilities db group model).rows := by
    unfold getChannelQuery at queried
    dsimp only at queried
    split_ifs at queried
    · cases queried
      exact (mem_filter.mp mem).1
    · cases priority : getPriority db group model retry with
      | error => simp [priority, bind, Except.bind] at queried
      | ok =>
        simp only [priority, bind, Except.bind, pure, Except.pure, Except.ok.injEq] at queried
        subst queried
        exact (mem_filter.mp mem).1
  obtain ⟨stored, served⟩ := mem_filter.mp among
  simp only [decide_eq_true_eq] at served
  exact ⟨stored, served.2.2⟩

theorem getChannel_found (ret : getChannel env db group model retry requestPath draw = .ok (some channel)) :
    channel ∈ db.channels.rows ∧ ∃ ability ∈ db.abilities.rows, ability.channelId = channel.id ∧
      ability.enabled = true := by
  unfold getChannel at ret
  cases queried : getChannelQuery db group model retry with
  | error => simp [queried, bind, Except.bind] at ret
  | ok =>
    simp only [queried, bind, Except.bind] at ret
    split_ifs at ret with none
    · cases ret
    · split at ret
      · next channel' looked =>
          cases ret
          obtain ⟨ability, picked, row⟩ := Option.bind_eq_some_iff.mp looked
          obtain ⟨stored, same⟩ := find?_eq_some.mp row
          have ordered := mem_of_filterAbilities (pickAbility_mem picked)
          obtain ⟨listed, enabled⟩ := query_enabled queried (mem_orderBy.mp ordered)
          exact ⟨stored, ability, listed, same.symm, enabled⟩
      · cases ret

end Routing

theorem routing_mirrors (env : ChannelEnv) (start : ChannelDb) (mirrored : Mirrored start) (ops : List AdminOp)
    (along : Along (adminStep env) (KeepsMirror env) start ops) :
    Mirrored (administer env start ops) ∧ ∀ group model retry requestPath draw channel,
      getChannel env (administer env start ops) group model retry requestPath draw =
        .ok (some channel) → channel.status = channelStatusEnabled := by
  have still : Mirrored (administer env start ops) := run_invariant (mirrored_step env) mirrored along
  refine ⟨still, fun _ _ _ _ _ channel ret => ?_⟩
  obtain ⟨stored, ability, listed, own, enabled⟩ := getChannel_found ret
  obtain ⟨_, -, _, -, rfl⟩ := (still channel stored ability).mp ⟨listed, own⟩
  simpa [Channel.ability] using enabled

def emptyDb : ChannelDb := ⟨empty, empty⟩

def sampleChannel (tag : Option String) : Channel := { id := 1, models := "gpt,o", weight := some 5, tag := tag }

def retaggedAndDisabled : List AdminOp :=
  [.insert (sampleChannel (some "a")) 1, .editByTag "a" { newTag := some "b" }, .disableByTag "b"]

theorem routing_mirrors_disabled : Mirrored (administer {} emptyDb retaggedAndDisabled) ∧
    (administer {} emptyDb retaggedAndDisabled).abilities.rows.map (fun ability => (ability.enabled, ability.tag)) =
      [(false, some "b"), (false, some "b")] := by
  refine ⟨(routing_mirrors {} emptyDb (fun _ mem => by cases mem) retaggedAndDisabled
    ⟨⟨by decide +kernel, ?_⟩, ?_, trivial, trivial⟩).1, ?_⟩
  · intro _ mem
    cases mem
  · intro given
    cases given
  · decide +kernel

theorem mislabelled_channel_routed :
    (getChannel {} (administer {} emptyDb [.insert (sampleChannel none) 1,
      .batchSetTag [1] (some "a"), .disableByTag "a"])
      "default" "gpt" 0 "" 0).toOption.join.map (·.status) = some channelStatusManuallyDisabled ∧
    (administer {} emptyDb [.insert (sampleChannel (some "a")) 1,
      .editByTag "a" { weight := some 0 }]).abilities.rows.map (·.weight) = [5, 5] ∧
    (administer {} emptyDb [.insert { id := 1, group := "a,a|b", models := "b|c,c" } 1]).abilities.rows.length = 3 := by
  decide +kernel

end NewApi.Proof
