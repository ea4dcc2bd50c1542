import NewApi.Middleware.Distributor
import NewApi.Proof.KeyStatuses

/-! # Keys that go upstream -/

namespace NewApi.Proof
open Library Model Service Middleware List Option
variable {channel : Channel} {draw : Nat}

def EnabledKeyOf (env : ChannelEnv) (channel : Channel) (key : String) : Prop :=
  if channel.channelInfo.isMultiKey then
    ∃ index, (channel.getKeys env)[index]? = some key ∧ channel.channelInfo.keyStatus index = channelStatusEnabled
  else key = channel.key

def HasEnabledKey (env : ChannelEnv) (channel : Channel) (saved : Option Int) : Prop :=
  channel.channelInfo.isMultiKey = false ∨
    (∃ index < (channel.getKeys env).length, channel.channelInfo.keyStatus index = channelStatusEnabled) ∧
      (channel.channelInfo.multiKeyMode = .polling → saved ≠ none)

section Keys
variable {env : ChannelEnv} {saved : Option Int}

variable {index : Nat} {selection : SelectedKey}

theorem mem_enabledIndexes {keys info} :
    index ∈ enabledIndexes keys info ↔ index < keys.length ∧ info.keyStatus index = channelStatusEnabled := by
  simp [enabledIndexes]

structure Picked (env : ChannelEnv) (channel : Channel) (selection : SelectedKey) : Prop where
  enabled : selection.index ∈ enabledIndexes (channel.getKeys env) channel.channelInfo
  key : selection.key = ((channel.getKeys env)[selection.index]?).getD ""

theorem getNextEnabledKey_cases (several : channel.channelInfo.isMultiKey = true) :
    (∃ selection, channel.getNextEnabledKey env saved draw = .ok selection ∧ Picked env channel selection ∧
      (channel.channelInfo.multiKeyMode = .polling → saved ≠ none)) ∨
        (∃ err, channel.getNextEnabledKey env saved draw = .error err) ∧
      (enabledIndexes (channel.getKeys env) channel.channelInfo = [] ∨
        channel.channelInfo.multiKeyMode = .polling ∧ saved = none) := by
  unfold Channel.getNextEnabledKey
  rw [if_neg (by simp [several])]
  dsimp only
  by_cases empty : channel.getKeys env = []
  · rw [if_pos empty]
    exact .inr ⟨⟨_, rfl⟩, .inl (by simp [enabledIndexes, empty])⟩
  · rw [if_neg empty]
    cases enabled : enabledIndexes (channel.getKeys env) channel.channelInfo with
    | nil => exact .inr ⟨⟨_, rfl⟩, .inl rfl⟩
    | cons first rest =>
      cases mode : channel.channelInfo.multiKeyMode with
      | random =>
        have bound : draw % (rest.length + 1) < (first :: rest).length := Nat.mod_lt _ (Nat.succ_pos _)
        refine .inl ⟨_, rfl, ⟨?_, rfl⟩, by simp⟩
        rw [enabled, getElem?_eq_getElem bound, getD_some]
        exact getElem_mem _
      | polling =>
        cases saved with
        | none => exact .inr ⟨⟨_, rfl⟩, .inr ⟨rfl, rfl⟩⟩
        | some =>
          dsimp only
          split
          · rename_i index found
            exact .inl ⟨_, rfl, ⟨enabled ▸ by simpa using find?_some found, rfl⟩, by simp⟩
          · exact .inl ⟨_, rfl, ⟨by simp [enabled], rfl⟩, by simp⟩
      | unset => exact .inl ⟨_, rfl, ⟨by simp [enabled], rfl⟩, by simp⟩

theorem Picked.enabledKeyOf (several : channel.channelInfo.isMultiKey = true) (picked : Picked env channel selection) :
    EnabledKeyOf env channel selection.key := by
  obtain ⟨among, enabled⟩ := mem_enabledIndexes.mp picked.enabled
  rw [EnabledKeyOf, if_pos several]
  refine ⟨selection.index, ?_, enabled⟩
  rw [picked.key, getElem?_eq_getElem among, getD_some]

theorem getNextEnabledKey_single (single : channel.channelInfo.isMultiKey = false) :
    channel.getNextEnabledKey env saved draw = .ok ⟨channel.key, 0, channel⟩ := by
  rw [Channel.getNextEnabledKey, if_pos single]

theorem selected_enabled (chosen : channel.getNextEnabledKey env saved draw = .ok selection) :
    EnabledKeyOf env channel selection.key := by
  by_cases several : channel.channelInfo.isMultiKey = true
  · rcases getNextEnabledKey_cases several with ⟨_, found, picked, -⟩ | ⟨⟨_, failed⟩, -⟩
    · rw [found] at chosen
      cases chosen
      exact picked.enabledKeyOf several
    · rw [failed] at chosen
      cases chosen
  · rw [getNextEnabledKey_single (Bool.eq_false_of_not_eq_true several)] at chosen
    cases chosen
    rw [EnabledKeyOf, if_neg several]

theorem selects_iff : (∃ selection, channel.getNextEnabledKey env saved draw = .ok selection) ↔
    HasEnabledKey env channel saved := by
  by_cases several : channel.channelInfo.isMultiKey = true
  · have reduced : HasEnabledKey env channel saved ↔ enabledIndexes (channel.getKeys env) channel.channelInfo ≠ [] ∧
        (channel.channelInfo.multiKeyMode = .polling → saved ≠ none) := by
      simp only [HasEnabledKey, several, Bool.true_eq_false, false_or, ne_eq,
        eq_nil_iff_forall_not_mem, not_forall, not_not,
        mem_enabledIndexes]
    rw [reduced]
    rcases getNextEnabledKey_cases several with ⟨selection, found, picked, polled⟩ | ⟨⟨_, failed⟩, reason⟩
    · exact ⟨fun _ => ⟨ne_nil_of_mem picked.enabled, polled⟩, fun _ => ⟨selection, found⟩⟩
    · constructor
      · rintro ⟨_, found⟩
        rw [failed] at found
        cases found
      · rintro ⟨some, polled⟩
        rcases reason with none | ⟨polling, gone⟩
        · exact absurd none some
        · exact absurd gone (polled polling)
  · have single := Bool.eq_false_of_not_eq_true several
    exact ⟨fun _ => .inl single, fun _ => ⟨_, getNextEnabledKey_single single⟩⟩

end Keys

structure BelongTogether (env : DistributorEnv) (channel : Channel) (ctx : RequestContext) : Prop where
  id : ctx.channelId = some channel.id
  key : ∃ key, ctx.channelKey = some key ∧ EnabledKeyOf env.channels channel key
  baseUrl : ctx.channelBaseUrl = some (getBaseURL env channel)

def Usable (env : DistributorEnv) (store : ChannelStore) (channel : Channel) : Prop :=
  HasEnabledKey env.channels channel (store.pollingIndex channel.id)

section Context
variable {env : DistributorEnv} {store : ChannelStore} {ctx : RequestContext} {modelName : String}

theorem setup_cases (env store) (ctx : RequestContext) (channel) (modelName : String) (draw : Nat) :
    (Usable env store channel ∧ (setupContextForSelectedChannel env store ctx (some channel) modelName draw).2 = none ∧
      BelongTogether env channel (setupContextForSelectedChannel env store ctx (some channel) modelName draw).1) ∨
    (¬Usable env store channel ∧ (setupContextForSelectedChannel env store ctx (some channel) modelName draw).2 ≠ none ∧
      (setupContextForSelectedChannel env store ctx (some channel) modelName draw).1.channelKey = ctx.channelKey) := by
  unfold setupContextForSelectedChannel
  dsimp only
  cases chosen : channel.getNextEnabledKey env.channels (store.pollingIndex channel.id) draw with
  | ok selection => exact .inl ⟨selects_iff.mp ⟨selection, chosen⟩, rfl, rfl,
      ⟨selection.key, rfl, selected_enabled chosen⟩, rfl⟩
  | error =>
    refine .inr ⟨fun usable => ?_, by simp, rfl⟩
    obtain ⟨_, found⟩ := selects_iff.mpr usable
    rw [chosen] at found
    cases found

variable {param : RetryParam} {path model : String}

theorem nextChannel_together {next after}
    (selected : nextChannel env store ctx param draw = (.ok channel, after, next)) :
    BelongTogether env channel after := by
  unfold nextChannel at selected
  dsimp only at selected
  split at selected
  · cases selected
  · cases selected
  · rename_i found _
    have cases_of := setup_cases env store
      { ctx with toAutoContext := (cacheGetRandomSatisfiedChannel env.settings
        (fun group retry => store.randomSatisfiedChannel env.channels group param.modelName retry
          param.requestPath draw) ctx.toAutoContext param).ctx }
      found param.modelName draw
    split at selected
    · cases selected
    · rename_i setup
      rw [setup] at cases_of
      cases selected
      rcases cases_of with ⟨-, -, together⟩ | ⟨-, failed, -⟩
      · exact together
      · exact absurd rfl failed

theorem handledTurns_together (turns) (together : BelongTogether env channel ctx) :
    ∀ entry ∈ handledTurns env channel ctx param turns, BelongTogether env entry.1 entry.2 := by
  induction turns generalizing channel ctx param with
  | nil => simp [handledTurns]
  | cons _ _ ih =>
    unfold handledTurns
    dsimp only
    split_ifs
    · split
      · simp
      · rename_i selected
        have next_together := nextChannel_together selected
        simp only [mem_cons]
        rintro entry (rfl | later)
        · exact next_together
        · exact ih next_together entry later
    · simp only [mem_cons]
      rintro entry (rfl | later)
      · exact together
      · exact ih together entry later

/-! What is selected before the handler runs does not touch the key. -/

theorem affinityChannel_key {after}
    (found : affinityChannel env store ctx path model = some (channel, after)) : after.channelKey = ctx.channelKey := by
  unfold affinityChannel at found
  cases preferred : env.preferredChannel model ctx.usingGroup with
  | none => simp [preferred] at found
  | some id =>
    cases looked : (store.cacheGetChannel id).toOption with
    | none => simp [preferred, looked] at found
    | some =>
      simp only [preferred, looked, bind_eq_bind, bind_some] at found
      split_ifs at found
      · obtain ⟨_, -, same⟩ := bind_eq_some_iff.mp found
        cases same
        rfl
      · cases found
        rfl

theorem randomChannel_key {after}
    (found : randomChannel env store ctx path model draw = .ok (channel, after)) :
    after.channelKey = ctx.channelKey := by
  unfold randomChannel at found
  dsimp only at found
  split at found
  · cases found
  · cases found
  · cases found
    rfl

theorem selectChannel_key {request after}
    (found : selectChannel env store ctx request model draw = .ok (channel, after)) :
    after.channelKey = ctx.channelKey := by
  unfold selectChannel at found
  by_cases named : model = ""
  · simp [named, bind, Except.bind, throw, throwThe, MonadExceptOf.throw] at found
  · cases group : playgroundUsingGroup env ctx request with
    | error => simp [named, group, bind, Except.bind] at found
    | ok group =>
      simp only [named, if_false, group, bind, Except.bind, pure, Except.pure] at found
      split at found
      · rename_i preferred
        cases found
        have kept := affinityChannel_key preferred
        exact kept
      · have kept := randomChannel_key found
        exact kept

theorem distribute_setup {request after} (passed : distribute env store ctx request draw = .ok (some channel, after)) :
    ∃ before model, before.channelKey = ctx.channelKey ∧
      after = (setupContextForSelectedChannel env store before (some channel) model draw).1 := by
  unfold distribute at passed
  cases parsed : request.modelRequest with
  | error => simp [parsed, bind, Except.bind, throw, throwThe, MonadExceptOf.throw] at passed
  | ok found =>
    obtain ⟨model, shouldSelectChannel⟩ := found
    cases specific : ctx.tokenSpecificChannelId with
    | some text =>
      cases looked : specificChannel env store text with
      | error => simp [parsed, specific, looked, bind, Except.bind, pure, Except.pure] at passed
      | ok =>
        simp only [parsed, specific, looked, bind, Except.bind, pure, Except.pure, Except.ok.injEq,
          Prod.mk.injEq, some.injEq] at passed
        obtain ⟨rfl, rfl⟩ := passed
        exact ⟨ctx, model, rfl, rfl⟩
    | none =>
      cases limit : checkModelLimit ctx model with
      | error => simp [parsed, specific, limit, bind, Except.bind, pure, Except.pure] at passed
      | ok =>
        cases shouldSelectChannel with
        | false => simp [parsed, specific, limit, bind, Except.bind, pure, Except.pure] at passed
        | true =>
          cases selected : selectChannel env store ctx request model draw with
          | error => simp [parsed, specific, limit, selected, bind, Except.bind, pure, Except.pure] at passed
          | ok found =>
            obtain ⟨found, before⟩ := found
            simp only [parsed, specific, limit, selected, bind, Except.bind, pure, Except.pure,
              if_true, Except.ok.injEq,
              Prod.mk.injEq, some.injEq] at passed
            obtain ⟨rfl, rfl⟩ := passed
            exact ⟨before, model, selectChannel_key selected, rfl⟩

theorem handlers_get_enabled_keys (env : DistributorEnv) (store : ChannelStore)
    (ctx : RequestContext) (request : ModelRequest) (draw : Nat)
    (tokenGroup : String) (turns : List RetryTurn) (fresh : ctx.channelKey = none) :
    (∀ entry ∈ handled env store ctx request draw tokenGroup turns, BelongTogether env entry.1 entry.2) ↔
      ∀ channel after, distribute env store ctx request draw = .ok (some channel, after) →
        Usable env store channel := by
  constructor
  · intro together channel after passed
    obtain ⟨before, model, kept, rfl⟩ := distribute_setup passed
    rcases setup_cases env store before channel model draw with ⟨usable, -⟩ | ⟨-, -, key⟩
    · exact usable
    · -- The key of the context was never set.
      have first := together _ (by unfold handled; rw [passed]; exact mem_cons_self)
      obtain ⟨_, set, -⟩ := first.key
      rw [key, kept, fresh] at set
      cases set
  · intro usable entry mem
    unfold handled at mem
    split at mem
    · rename_i channel after passed
      obtain ⟨before, model, _, rfl⟩ := distribute_setup passed
      have together :
        BelongTogether env channel (setupContextForSelectedChannel env store before
        (some channel) model draw).1 := by
        rcases setup_cases env store before channel model draw with ⟨-, -, together⟩ | ⟨unusable, -⟩
        · exact together
        · exact absurd (usable channel _ passed) unusable
      rcases mem_cons.mp mem with rfl | later
      · exact together
      · exact handledTurns_together turns together entry later
    · cases mem

end Context

def twoKeysRequest : ModelRequest := { path := "/v1/chat/completions", modelRequest := .ok ("o", true) }

def twoKeysEnv : DistributorEnv := { settings := ⟨0, [], fun _ => []⟩ }

def chatTurns (events : List NodeEvent) : List (Channel × RequestContext) :=
  handled twoKeysEnv (onTwoKeys true events).store { usingGroup := "default" } twoKeysRequest 0 "default" []

theorem handlers_get_enabled_keys_polling : (chatTurns (callOn 0 .refresh 3)).length = 1 ∧
    ∀ entry ∈ chatTurns (callOn 0 .refresh 3), BelongTogether twoKeysEnv entry.1 entry.2 := by
  refine ⟨by decide +kernel, ?_⟩
  refine (handlers_get_enabled_keys twoKeysEnv (onTwoKeys true (callOn 0 .refresh 3)).store
    { usingGroup := "default" } twoKeysRequest 0 "default" []
    rfl).mpr fun channel _ passed => ?_
  have selected :
    (distribute twoKeysEnv (onTwoKeys true (callOn 0 .refresh 3)).store
    { usingGroup := "default" } twoKeysRequest 0).toOption.bind
      (·.1) = some twoKeys := by decide +kernel
  rw [passed] at selected
  obtain rfl : channel = twoKeys := some.inj selected
  exact .inr ⟨⟨0, by decide +kernel, by decide +kernel⟩, fun _ => by decide +kernel⟩

def keylessTurns : List (Channel × RequestContext) := chatTurns
    (callOn 0 .refresh 3 ++ callOn 1 (.manageKeys (Nat.toPNat' 1) .disableAllKeys) 7)

theorem handler_without_key :
    keylessTurns.map (fun entry => (entry.2.channelId, entry.2.channelKey)) = [(some 1, none)] ∧
      ¬∀ entry ∈ keylessTurns, BelongTogether twoKeysEnv entry.1 entry.2 := by
  have contexts : keylessTurns.map (fun entry => (entry.2.channelId, entry.2.channelKey)) =
    [(some 1, none)] := by decide +kernel
  refine ⟨contexts, fun together => ?_⟩
  have mem : (some 1, none) ∈ keylessTurns.map fun entry =>
    (entry.2.channelId, entry.2.channelKey) := by simp [contexts]
  obtain ⟨entry, among, same⟩ := mem_map.mp mem
  obtain ⟨key, set, -⟩ := (together entry among).key
  have unset : entry.2.channelKey = none := (Prod.mk.inj same).2
  rw [unset] at set
  cases set

end NewApi.Proof
