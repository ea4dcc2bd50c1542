import NewApi.Proof.ChannelRows

/-! # The statuses of the keys -/

namespace NewApi.Proof
open Library Model ChannelNode ChannelInfo Channel List Option
variable {effects : List NodeCall} {call : NodeCall}

/-! ## Lists of statuses -/

theorem lookup_filter {α β : Type} [DecidableEq α] (p : α → Bool) (list : List (α × β)) (key : α) :
    (list.filter fun entry => p entry.1).lookup key = if p key then list.lookup key else none := by
  induction list with
  | nil => simp
  | cons entry _ ih =>
    obtain ⟨first, _⟩ := entry
    by_cases kept : p first = true
    · rw [filter_cons, if_pos kept, lookup_cons, lookup_cons, ih]
      by_cases same : key = first
      · simp [same, kept]
      · simp [beq_eq_false_iff_ne.mpr same]
    · rw [filter_cons, if_neg kept, ih, lookup_cons]
      by_cases same : key = first
      · simp [same, kept]
      · simp [beq_eq_false_iff_ne.mpr same]

section Statuses
variable (info : ChannelInfo) (index changed : Nat)

theorem keyStatus_clearKeyStatus :
    (info.clearKeyStatus changed).keyStatus index = if index =
      changed then channelStatusEnabled else info.keyStatus index := by
  unfold clearKeyStatus keyStatus
  rw [lookup_filter fun key => decide (key ≠ changed)]
  by_cases same : index = changed
  · simp [same]
  · simp [same]

theorem keyStatus_setKeyStatus (status : Int) :
    (info.setKeyStatus changed status).keyStatus index = if index = changed then status else info.keyStatus index := by
  have others := keyStatus_clearKeyStatus info index changed
  unfold setKeyStatus clearKeyStatus keyStatus at *
  rw [lookup_cons]
  by_cases same : index = changed
  · simp [same]
  · simpa [beq_eq_false_iff_ne.mpr same, same] using others

end Statuses

theorem handler_keyStatus (env channel) (usingKey : String) (status : Int) (index : Nat) :
    (handlerMultiKeyUpdate env channel usingKey status).channelInfo.keyStatus index =
      if (channel.getKeys env).findIdx? (· = usingKey) =
        some index then status else channel.channelInfo.keyStatus index := by
  unfold handlerMultiKeyUpdate
  by_cases empty : channel.getKeys env = []
  · simp [empty]
  · simp only [empty, if_false]
    cases found : (channel.getKeys env).findIdx? (· = usingKey) with
    | none =>
      by_cases named : usingKey = ""
      · simp [named]
      · simp [named]
    | some changed =>
      by_cases enabled : status = channelStatusEnabled
      · simp only [enabled, if_true, some.injEq, eq_comm]
        exact (keyStatus_clearKeyStatus channel.channelInfo index changed).symm
      · simp only [enabled, if_false, some.injEq, eq_comm]
        exact (keyStatus_setKeyStatus channel.channelInfo index changed status).symm

theorem keyIndex_eq_some {info index position} (found : keyIndex info index = some position) :
    index = some (position : Int) ∧ position < info.multiKeySize := by
  unfold keyIndex at found
  cases index with
  | none => cases found
  | some =>
    simp only [bind_some] at found
    split_ifs at found with outside
    cases found
    refine ⟨?_, by omega⟩
    rw [Int.toNat_of_nonneg (by omega)]

/-! ## The last call for a key -/

def keyChange (keys : List String) (id : ℕ+) : NodeCall → Option (Nat × Int)
  | .updateStatus channelId usingKey status =>
    if channelId = id then (keys.findIdx? (· = usingKey)).map fun index => (index, status) else none
  | .manageKeys channelId (.disableKey (some index)) =>
    if channelId = id ∧ 0 ≤ index then some (index.toNat, channelStatusManuallyDisabled) else none
  | .manageKeys channelId (.enableKey (some index)) =>
    if channelId = id ∧ 0 ≤ index then some (index.toNat, channelStatusEnabled) else none
  | _ => none

def statusAfter (keys : List String) (id : ℕ+) (initial : Nat → Int) (effects : List NodeCall) (index : Nat) : Int :=
  ((effects.filterMap (keyChange keys id)).reverse.lookup index).getD (initial index)

section LastCall
variable {keys : List String} {id : ℕ+} {initial : Nat → Int} {index : Nat}

theorem statusAfter_other (other : ∀ change, keyChange keys id call = some change → change.1 ≠ index) :
    statusAfter keys id initial (effects ++ [call]) index = statusAfter keys id initial effects index := by
  unfold statusAfter
  rw [filterMap_append, reverse_append]
  cases changes : keyChange keys id call with
  | none => simp [changes]
  | some change =>
    obtain ⟨changed, _⟩ := change
    have ne : index ≠ changed := Ne.symm (other _ changes)
    simp [changes, lookup_cons, beq_eq_false_iff_ne.mpr ne]

end LastCall

/-! ## Runs -/

def concernsKeys : NodeCall → Bool
  | .manageKeys _ (.enableAllKeys) | .manageKeys _ (.disableAllKeys) => false
  | _ => true

variable (env : ChannelEnv) (id : ℕ+)

def asRead (node : ChannelNode) (row : Channel) : Bool :=
  (node.db.channels.find? id).all fun stored =>
    (range (stored.getKeys env).length).all fun index =>
      row.channelInfo.keyStatus index = stored.channelInfo.keyStatus index

def inRange (env : ChannelEnv) (row : Channel) : KeyAction → Bool
  | .disableKey (some index) | .enableKey (some index) =>
      (row.getKeys env).length ≤ index || index < row.channelInfo.multiKeySize
  | _ => true

/-- A call writes over the statuses it read, finds the channel in the cache and, to change a status,
a row with another one. The size covers the keys. -/
def keepsKeys (node : ChannelNode) : NodeEvent → Bool
  | .call _ call => concernsKeys call
  | .advance thread =>
    match node.threads thread with
    | some ⟨.updateStatus channelId _ status, .start⟩ =>
      channelId ≠ id || !node.memoryCacheEnabled || node.channelStatusLock.isSome ||
        (node.cache.channelsIDM.find? id).any fun object => object.channelInfo.isMultiKey || object.status ≠ status
    | some ⟨.updateStatus channelId _ status, .fetching⟩ =>
      channelId ≠ id || (node.db.channels.find? id).all fun row => row.status ≠ status
    | some ⟨.updateStatus channelId _ _, .saving row _⟩ => channelId ≠ id || asRead env id node row
    | some ⟨.manageKeys channelId action, .locking row⟩ => channelId ≠ id || inRange env row action
    | some ⟨.manageKeys channelId _, .updating row _⟩ => channelId ≠ id || asRead env id node row
    | some ⟨.nextKey channelId, .storing row _⟩ => channelId ≠ id || asRead env id node row
    | _ => true
  | .useQuota _ _ => true

structure KeysFit (text : String) (row : Channel) : Prop where
  key : row.key = text
  several : row.channelInfo.isMultiKey = true

def handOf (text : String) : NodeCall → NodeStage → Prop
  | .updateStatus channelId _ _, .handling row => row.id = channelId ∧ (channelId = id → KeysFit text row)
  | .updateStatus channelId usingKey status, .saving row updated => updated.id = channelId ∧
      (channelId = id → KeysFit text row ∧ updated = updatedRow env row usingKey status)
  | .manageKeys channelId _, .locking row => channelId = id → KeysFit text row
  | .manageKeys channelId action, .updating row changed => channelId = id → KeysFit text row ∧ KeysFit text changed ∧
      ∃ info, action.apply row.channelInfo = some info ∧
        ∀ index < (row.getKeys env).length, changed.channelInfo.keyStatus index = info.keyStatus index
  | .nextKey channelId, .polling row => row.id = channelId ∧ (channelId = id → KeysFit text row)
  | .nextKey channelId, .storing row changed => changed.id = channelId ∧
      (channelId = id → KeysFit text row ∧ KeysFit text changed ∧
        changed.channelInfo.multiKeyStatusList = row.channelInfo.multiKeyStatusList)
  | _, _ => True

def RowFollows (start : Channel) (channels : Table Channel.id) (effects : List NodeCall) : Prop :=
  ∃ row, channels.find? id = some row ∧ KeysFit start.key row ∧ ∀ index < (start.getKeys env).length,
    row.channelInfo.keyStatus index = statusAfter (start.getKeys env) id start.channelInfo.keyStatus effects index

structure KeysFollow (env : ChannelEnv) (id : ℕ+) (start : Channel) (node : ChannelNode) : Prop where
  row : RowFollows env id start node.db.channels node.effects
  hands : ∀ thread call stage, node.threads thread = some ⟨call, stage⟩ → handOf env id start.key call stage
  calls : ∀ thread call stage, node.threads thread = some ⟨call, stage⟩ → concernsKeys call = true
  finished : ∀ thread call stage, node.threads thread = some ⟨call, stage⟩ →
    tookEffect call stage = true → call ∈ node.effects

section Steps
variable {env : ChannelEnv} {id : ℕ+} {start : Channel} {node : ChannelNode} {thread : Nat} {stage next : NodeStage}
    {channels : Table Channel.id}

variable {row channel : Channel} {db : ChannelDb} {action : KeyAction} {channelId : ℕ+}

theorem getKeys_congr {other : Channel} (same : row.key = other.key) : row.getKeys env = other.getKeys env := by
  simp only [getKeys, same]

theorem getKeys_le_updateKeys (channel : Channel) : (channel.getKeys env).length ≤
    (updateKeys env channel.key).length := by
  unfold getKeys updateKeys
  split_ifs
  · simp
  · cases arrayKeys env channel.key with
    | none => simp
    | some keys =>
      cases keys with
      | nil => simp
      | cons => simp

theorem countKeys_keyStatus {index} (among : index < (channel.getKeys env).length) :
    (channel.countKeys env db).channelInfo.keyStatus index = channel.channelInfo.keyStatus index := by
  have named : channel.key ≠ "" := by
    intro empty
    simp [getKeys, empty] at among
  have counted : index < (updateKeys env channel.key).length := Nat.lt_of_lt_of_le among (getKeys_le_updateKeys channel)
  unfold countKeys
  split_ifs
  · simp only [keyStatus]
    rw [lookup_filter fun key => decide (key < (updateKeys env channel.key).length), if_pos (by simpa using counted)]
  · rfl

theorem countKeys_fits {text} (fits : KeysFit text channel) : KeysFit text (channel.countKeys env db) := by
  unfold countKeys
  rw [if_pos fits.several]
  exact ⟨fits.key, fits.several⟩

theorem apply_several {info changed} (concerned : concernsKeys (.manageKeys id action) = true)
    (applied : action.apply info = some changed) : changed.isMultiKey = info.isMultiKey := by
  cases action with
  | disableKey index | enableKey index =>
    obtain ⟨_, -, rfl⟩ := map_eq_some_iff.mp applied
    rfl
  | enableAllKeys => cases concerned
  | disableAllKeys => cases concerned

theorem selected_channel {saved draw selection} (chosen : row.getNextEnabledKey env saved draw = .ok selection) :
    ∃ index, selection.channel = { row with channelInfo :=
      { row.channelInfo with multiKeyPollingIndex := index } } := by
  unfold getNextEnabledKey at chosen
  dsimp only at chosen
  split_ifs at chosen
  · cases chosen
    exact ⟨row.channelInfo.multiKeyPollingIndex, rfl⟩
  · split at chosen
    · cases chosen
    · split at chosen
      · cases chosen
        exact ⟨row.channelInfo.multiKeyPollingIndex, rfl⟩
      · split at chosen
        · cases chosen
        · split at chosen
          · cases chosen
            exact ⟨_, rfl⟩
          · cases chosen
            exact ⟨row.channelInfo.multiKeyPollingIndex, rfl⟩
      · cases chosen
        exact ⟨row.channelInfo.multiKeyPollingIndex, rfl⟩

theorem moves_hands (follow : KeysFollow env id start node) (found : node.threads thread = some ⟨call, stage⟩)
    (moves : NodeMoves env node call stage next channels effects) : handOf env id start.key call next := by
  obtain ⟨row, stored, fits, -⟩ := follow.row
  have hand := follow.hands thread call stage found
  have read : ∀ {channelId : ℕ+} {other : Channel}, node.db.channels.find? channelId = some other →
      other.id = channelId ∧ (channelId = id → KeysFit start.key other) := by
    intro _ _ looked
    refine ⟨(Table.find?_eq_some.mp looked).2, ?_⟩
    rintro rfl
    rw [← mem_unique stored looked]
    exact fits
  cases moves with
  | passes empty before | saved row updated empty =>
    unfold handOf
    split <;> trivial
  | fetched looked =>
    obtain ⟨row_id, row_fits⟩ := read looked
    split_ifs with several
    · exact ⟨row_id, row_fits⟩
    · exact ⟨(updatedRow_id env _ _ _).trans row_id, fun same => ⟨row_fits same, rfl⟩⟩
  | handled => exact ⟨(updatedRow_id env _ _ _).trans hand.1, fun same => ⟨hand.2 same, rfl⟩⟩
  | located looked => exact (read looked).2
  | @prepared _ _ row info valid =>
    intro same
    have fits := hand same
    have several : KeysFit start.key { row with channelInfo := info } :=
      ⟨fits.key, (apply_several (follow.calls thread _ _ found) valid).trans fits.several⟩
    refine ⟨fits, countKeys_fits several, info, valid, fun _ among => countKeys_keyStatus ?_⟩
    exact among
  | looked looked => exact read looked
  | selected chosen =>
    obtain ⟨_, changed⟩ := selected_channel chosen
    rw [changed]
    exact ⟨hand.1, fun same => ⟨hand.2 same, ⟨(hand.2 same).key, (hand.2 same).several⟩, rfl⟩⟩
  | _ => trivial

theorem keyChange_update_other {keys} (other : channelId ≠ id) (usingKey : String) (status : Int) :
    keyChange keys id (.updateStatus channelId usingKey status) = none := by
  simp [keyChange, other]

theorem keyChange_manage_other {keys} (other : channelId ≠ id) (action) :
    keyChange keys id (.manageKeys channelId action) = none := by
  unfold keyChange
  split <;> simp_all

theorem RowFollows.unmoved (follows : RowFollows env id start channels effects)
    (outside : ∀ change, keyChange (start.getKeys env) id call = some change → (start.getKeys env).length ≤ change.1) :
    RowFollows env id start channels (effects ++ [call]) := by
  obtain ⟨row, stored, fits, statuses⟩ := follows
  refine ⟨row, stored, fits, fun index among => ?_⟩
  rw [statuses index among, statusAfter_other]
  intro change changes _
  have := outside change changes
  omega

theorem RowFollows.changed {rows} (follows : RowFollows env id start channels effects)
    (stored : rows.find? id = some row) (fits : KeysFit start.key row)
    (kept : ∀ old, channels.find? id = some old → ∀ index < (start.getKeys env).length,
      (∀ change, keyChange (start.getKeys env) id call = some change → change.1 ≠ index) →
        row.channelInfo.keyStatus index = old.channelInfo.keyStatus index)
    (set : ∀ index status, index < (start.getKeys env).length →
    keyChange (start.getKeys env) id call = some (index, status) →
      row.channelInfo.keyStatus index = status) : RowFollows env id start rows (effects ++ [call]) := by
  obtain ⟨old, before, -, statuses⟩ := follows
  refine ⟨row, stored, fits, fun index among => ?_⟩
  by_cases other : ∀ change, keyChange (start.getKeys env) id call = some change → change.1 ≠ index
  · rw [kept old before index among other, statusAfter_other other, statuses index among]
  · push Not at other
    obtain ⟨⟨_, status⟩, changes, rfl⟩ := other
    rw [set _ status among changes, statusAfter, filterMap_append, reverse_append]
    simp [changes]

theorem asRead_eq {stored} (read : asRead env id node row = true) (found : node.db.channels.find? id = some stored)
    {index} (among : index < (stored.getKeys env).length) :
    row.channelInfo.keyStatus index = stored.channelInfo.keyStatus index := by
  simp only [asRead, found, Option.all_some, List.all_eq_true, List.mem_range, decide_eq_true_eq] at read
  exact read index among

theorem handler_several (env channel) (usingKey : String) (status : Int) :
    (handlerMultiKeyUpdate env channel usingKey status).channelInfo.isMultiKey = channel.channelInfo.isMultiKey := by
  unfold handlerMultiKeyUpdate
  dsimp only
  split
  · rfl
  · split
    · split <;> rfl
    · rfl

theorem updates_channelInfo {changed} (several : changed.channelInfo.isMultiKey = true) :
    (row.updates changed).channelInfo = changed.channelInfo := by
  have given : changed.channelInfo ≠ {} := by
    intro empty
    rw [empty] at several
    cases several
  simp [updates, given]

theorem apply_keyStatus {keys info changed}
    (concerned : concernsKeys (.manageKeys id action) = true) (applied : action.apply info = some changed) :
    ∃ position status, keyChange keys id (.manageKeys id action) = some (position, status) ∧
      ∀ index, changed.keyStatus index = if index = position then status else info.keyStatus index := by
  cases action with
  | disableKey | enableKey =>
    obtain ⟨position, found, rfl⟩ := map_eq_some_iff.mp applied
    obtain ⟨rfl, -⟩ := keyIndex_eq_some found
    first
    | exact ⟨position, channelStatusManuallyDisabled, by simp [keyChange], fun index =>
        keyStatus_setKeyStatus info index position _⟩
    | exact ⟨position, channelStatusEnabled, by simp [keyChange], fun index =>
        keyStatus_clearKeyStatus info index position⟩
  | enableAllKeys | disableAllKeys => cases concerned

theorem declined_outside (invalid : action.apply row.channelInfo = none)
    (covered : inRange env row action = true) {change} (changes : keyChange (row.getKeys env) id
    (.manageKeys id action) = some change) :
    (row.getKeys env).length ≤ change.1 := by
  have outside : ∀ index : Int, keyIndex row.channelInfo (some index) = none → 0 ≤ index →
      (decide (((row.getKeys env).length : Int) ≤ index) || decide (index < row.channelInfo.multiKeySize)) = true →
      (row.getKeys env).length ≤ index.toNat := by
    intro index invalid natural covered
    have large : ¬index < row.channelInfo.multiKeySize := by
      intro small
      simp [keyIndex, not_lt.mpr natural, not_le.mpr small] at invalid
    simp only [large, decide_false, Bool.or_false, decide_eq_true_eq] at covered
    omega
  cases action with
  | disableKey index | enableKey index =>
    cases index with
    | none => cases changes
    | some index =>
      simp only [keyChange, true_and] at changes
      split_ifs at changes with natural
      cases changes
      exact outside index (map_eq_none_iff.mp invalid) natural covered
  | enableAllKeys => cases changes
  | disableAllKeys => cases changes

theorem RowFollows.of_find? {rows} (follows : RowFollows env id start channels effects)
    (same : rows.find? id = channels.find? id) : RowFollows env id start rows effects := by
  obtain ⟨row, stored, rest⟩ := follows
  exact ⟨row, same.trans stored, rest⟩

section Follows
variable (follows : RowFollows env id start node.db.channels effects)
include follows

theorem saved_row {usingKey : String} {status : Int}
    (fits : KeysFit start.key row) (named : row.id = id) (read : asRead env id node row = true) :
    RowFollows env id start (saveWithoutKey (updatedRow env row usingKey status) node.db.channels)
      (effects ++ [.updateStatus id usingKey status]) := by
  have whole := follows
  obtain ⟨old, stored, old_fits, -⟩ := follows
  have keys : row.getKeys env = start.getKeys env := getKeys_congr fits.key
  have old_keys : old.getKeys env = start.getKeys env := getKeys_congr old_fits.key
  have after : (saveWithoutKey (updatedRow env row usingKey status) node.db.channels).find? id =
      some { updatedRow env row usingKey status with id := old.id, key := old.key } := by
    rw [find?_saveWithoutKey, if_pos ((updatedRow_id env row usingKey status).trans named).symm, stored]
    rfl
  have handled : (updatedRow env row usingKey status).channelInfo =
    (handlerMultiKeyUpdate env row usingKey status).channelInfo := by
    rw [updatedRow, if_pos fits.several]
  have change : ∀ index asked, keyChange (start.getKeys env) id (.updateStatus id usingKey status) =
    some (index, asked) ↔
      (row.getKeys env).findIdx? (· = usingKey) = some index ∧ status = asked := by
    intro index asked
    simp [keyChange, keys, eq_comm]
  refine whole.changed after ⟨old_fits.key, ?_⟩ ?_ ?_
  · dsimp only
    rw [handled, handler_several, fits.several]
  · intro _ stored_before index among other
    obtain rfl := mem_unique stored stored_before
    dsimp only
    rw [handled, handler_keyStatus, if_neg]
    · exact asRead_eq read stored (old_keys ▸ among)
    · intro named
      exact other _ ((change index status).mpr ⟨named, rfl⟩) rfl
  · intro index asked _ changes
    obtain ⟨named, rfl⟩ := (change index asked).mp changes
    dsimp only
    rw [handled, handler_keyStatus, if_pos named]

theorem updated_row {changed : Channel} {info}
    (concerned : concernsKeys (.manageKeys id action) = true) (fits : KeysFit start.key row)
    (changed_fits : KeysFit start.key changed)
    (applied : action.apply row.channelInfo = some info)
    (kept : ∀ index < (row.getKeys env).length, changed.channelInfo.keyStatus index = info.keyStatus index)
    (read : asRead env id node row = true) :
    RowFollows env id start (updateColumns id changed node.db.channels) (effects ++ [.manageKeys id action]) := by
  have whole := follows
  obtain ⟨old, stored, old_fits, -⟩ := follows
  have keys : row.getKeys env = start.getKeys env := getKeys_congr fits.key
  have old_keys : old.getKeys env = start.getKeys env := getKeys_congr old_fits.key
  have after : (updateColumns id changed node.db.channels).find? id = some (old.updates changed) := by
    rw [find?_updateColumns, if_pos rfl, stored]
    rfl
  have written : (old.updates changed).channelInfo = changed.channelInfo := updates_channelInfo changed_fits.several
  obtain ⟨position, status, change, set⟩ : ∃ position status,
    keyChange (start.getKeys env) id (.manageKeys id action) = some (position, status) ∧ _ :=
    apply_keyStatus concerned applied
  rw [keys] at kept
  refine whole.changed after ⟨?_, written ▸ changed_fits.several⟩ ?_ ?_
  · simp only [updates, changed_fits.key, old_fits.key, ite_self]
  · intro _ stored_before index among other
    obtain rfl := mem_unique stored stored_before
    rw [written, kept index among, set, if_neg (Ne.symm (other _ change))]
    exact asRead_eq read stored (old_keys ▸ among)
  · intro _ _ among changes
    obtain ⟨rfl, rfl⟩ := Prod.mk.inj (mem_unique change changes)
    rw [written, kept _ among, set, if_pos rfl]

theorem stored_row {changed : Channel} (named : changed.id = id)
    (changed_fits : KeysFit start.key changed) (same : changed.channelInfo.multiKeyStatusList =
    row.channelInfo.multiKeyStatusList)
    (read : asRead env id node row = true) : RowFollows env id start
    (saveChannelInfo changed node.db.channels) effects := by
  obtain ⟨old, stored, old_fits, statuses⟩ := follows
  have old_keys : old.getKeys env = start.getKeys env := getKeys_congr old_fits.key
  have after : (saveChannelInfo changed node.db.channels).find? id =
    some { old with channelInfo := changed.channelInfo } := by
    rw [find?_saveChannelInfo, if_pos named.symm, stored]
    rfl
  refine ⟨_, after, ⟨old_fits.key, changed_fits.several⟩, fun index among => ?_⟩
  have kept : changed.channelInfo.keyStatus index = row.channelInfo.keyStatus index := by simp only [keyStatus, same]
  rw [kept, asRead_eq read stored (old_keys ▸ among)]
  exact statuses index among

end Follows

theorem moves_row (follow : KeysFollow env id start node) (found : node.threads thread = some ⟨call, stage⟩)
    (keeps : keepsKeys env id node (.advance thread) = true)
    (moves : NodeMoves env node call stage next channels effects) :
    RowFollows env id start channels effects := by
  have hand := follow.hands thread call stage found
  have concerned := follow.calls thread call stage found
  obtain ⟨old, stored, fits, -⟩ := follow.row
  cases moves with
  | @ignored channelId _ status cached free unseen =>
    by_cases same : channelId = id
    · subst same
      have seen : (node.cache.channelsIDM.find? channelId).any
        (fun object => object.channelInfo.isMultiKey || object.status ≠ status) = true := by
        simpa [keepsKeys, found, cached, free] using keeps
      obtain ⟨object, looked, either⟩ := (any_eq_true _ _).mp seen
      obtain ⟨single, equal⟩ := unseen object looked
      simp [single, equal] at either
    · exact follow.row.unmoved (by simp [keyChange_update_other same])
  | @satisfied channelId _ _ same_status =>
    by_cases same : channelId = id
    · subst same
      simp [keepsKeys, found, stored, same_status old stored] at keeps
    · exact follow.row.unmoved (by simp [keyChange_update_other same])
  | @saved channelId usingKey status row =>
    by_cases same : channelId = id
    · subst same
      obtain ⟨row_fits, rfl⟩ := hand.2 rfl
      exact saved_row follow.row row_fits ((updatedRow_id env row usingKey status).symm.trans
        hand.1) (by simpa [keepsKeys, found] using keeps)
    · apply (follow.row.unmoved (by simp [keyChange_update_other same])).of_find?
      rw [find?_saveWithoutKey, if_neg]
      rw [hand.1]
      exact Ne.symm same
  | @refused channelId _ single =>
    by_cases same : channelId = id
    · subst same
      have several := fits.several
      rw [single old stored] at several
      cases several
    · exact follow.row.unmoved (by simp [keyChange_manage_other same])
  | @declined channelId action row invalid =>
    by_cases same : channelId = id
    · subst same
      have covered : inRange env row action = true := by simpa [keepsKeys, found] using keeps
      apply follow.row.unmoved
      rw [← getKeys_congr (hand rfl).key]
      exact fun _ changes => declined_outside invalid covered changes
    · exact follow.row.unmoved (by simp [keyChange_manage_other same])
  | @updated channelId _ row =>
    by_cases same : channelId = id
    · subst same
      obtain ⟨row_fits, changed_fits, _, applied, kept⟩ := hand rfl
      exact updated_row follow.row concerned row_fits changed_fits applied kept
        (by simpa [keepsKeys, found] using keeps)
    · apply (follow.row.unmoved (by simp [keyChange_manage_other same])).of_find?
      rw [find?_updateColumns, if_neg (Ne.symm same)]
  | @stored channelId row =>
    by_cases same : channelId = id
    · subst same
      obtain ⟨-, changed_fits, statuses⟩ := hand.2 rfl
      exact stored_row follow.row hand.1 changed_fits statuses (by simpa [keepsKeys, found] using keeps)
    · apply follow.row.of_find?
      rw [find?_saveChannelInfo, if_neg]
      rw [hand.1]
      exact Ne.symm same
  | _ => exact follow.row

theorem moves_effects (moves : NodeMoves env node call stage next channels effects) :
    (∀ other ∈ node.effects, other ∈ effects) ∧ (tookEffect call next = true →
      tookEffect call stage = true ∨ call ∈ effects) := by
  cases moves with
  | passes _ before => exact ⟨fun _ mem => mem, fun past => .inl (before past)⟩
  | fetched =>
    refine ⟨fun _ mem => mem, fun past => ?_⟩
    split_ifs at past <;> cases past
  | handled row | located found several | prepared valid | looked found | selected chosen | stored row changed result =>
    exact ⟨fun _ mem => mem, fun past => by cases past⟩
  | _ => exact ⟨fun _ mem => mem_append_left _ mem, fun _ => .inr (by simp)⟩

theorem KeysFollow.moved {after} (follow : KeysFollow env id start node)
    (threads : after.threads = Function.update node.threads thread (some ⟨call, next⟩))
    (row : RowFollows env id start after.db.channels after.effects)
    (kept : ∀ other ∈ node.effects, other ∈ after.effects)
    (hand : handOf env id start.key call next) (concerned : concernsKeys call = true)
    (finished : tookEffect call next = true → call ∈ after.effects) : KeysFollow env id start after := by
  have cases_of : ∀ other current stage, after.threads other = some ⟨current, stage⟩ →
      (current = call ∧ stage = next) ∨ node.threads other = some ⟨current, stage⟩ := by
    intro other current stage found
    rw [threads] at found
    by_cases same : other = thread
    · subst same
      rw [Function.update_self] at found
      cases found
      exact .inl ⟨rfl, rfl⟩
    · rw [Function.update_of_ne same] at found
      exact .inr found
  refine ⟨row, ?_, ?_, ?_⟩
  · intro other current stage found
    rcases cases_of other current stage found with ⟨rfl, rfl⟩ | before
    · exact hand
    · exact follow.hands other current stage before
  · intro other current stage found
    rcases cases_of other current stage found with ⟨rfl, rfl⟩ | before
    · exact concerned
    · exact follow.calls other current stage before
  · intro other current stage found past
    rcases cases_of other current stage found with ⟨rfl, rfl⟩ | before
    · exact finished past
    · exact kept _ (follow.finished other current stage before past)

theorem follow_step {event} (follow : KeysFollow env id start node) (keeps : keepsKeys env id node event = true) :
    KeysFollow env id start (node.step env event) := by
  cases event with
  | call thread call =>
    simp only [step]
    cases taken : node.threads thread with
    | some => exact follow
    | none =>
      have hand : handOf env id start.key call .start := by cases call <;> trivial
      have early : tookEffect call .start = false := by cases call <;> rfl
      exact follow.moved rfl follow.row (fun _ mem => mem) hand keeps (by simp [early])
  | advance thread =>
    simp only [step]
    cases found : node.threads thread with
    | none => simpa only [advance, found] using follow
    | some state =>
      obtain ⟨call, stage⟩ := state
      have advances : NodeAdvances env node thread call stage (node.advance env thread) := advance_cases found
      generalize node.advance env thread = after at advances
      cases advances with
      | waits => exact follow
      | moves threads moves =>
        obtain ⟨kept, past⟩ := moves_effects moves
        refine follow.moved threads (moves_row follow found keeps moves) kept (moves_hands follow found moves)
          (follow.calls thread call stage found) fun now => ?_
        rcases past now with before | noted
        · exact kept call (follow.finished thread call stage found before)
        · exact noted
  | useQuota channelId quota =>
    refine ⟨?_, follow.hands, follow.calls, follow.finished⟩
    obtain ⟨row, stored, fits, statuses⟩ := follow.row
    simp only [step]
    by_cases same : id = channelId
    · refine ⟨{ row with usedQuota := row.usedQuota + quota }, ?_, ⟨fits.key, fits.several⟩, statuses⟩
      rw [find?_updateChannelUsedQuota, if_pos same, stored]
      rfl
    · exact ⟨row, by rw [find?_updateChannelUsedQuota, if_neg same, stored], fits, statuses⟩

end Steps

theorem key_statuses_kept (env : ChannelEnv) (memoryCacheEnabled : Bool) (db : ChannelDb)
    (cache : ChannelCache) (id : ℕ+) (start : Channel)
    (stored : db.channels.find? id = some start) (several : start.channelInfo.isMultiKey = true)
    (events : List NodeEvent)
    (keeps : Along (step env) (fun node event => keepsKeys env id node event = true)
    (.init memoryCacheEnabled db cache) events) :
    let node := run (step env) (.init memoryCacheEnabled db cache) events
    (∃ row, node.db.channels.find? id = some row ∧ ∀ index < (start.getKeys env).length,
      row.channelInfo.keyStatus index = statusAfter (start.getKeys env) id
        start.channelInfo.keyStatus node.effects index) ∧
    ∀ thread call result, node.threads thread = some ⟨call, .returned result⟩ →
      keyChange (start.getKeys env) id call ≠ none →
      call ∈ node.effects := by
  have initially : KeysFollow env id start (.init memoryCacheEnabled db cache) :=
    ⟨⟨start, stored, ⟨rfl, several⟩, fun _ _ => rfl⟩, by simp [init], by simp [init], by simp [init]⟩
  have follow : KeysFollow env id start (run (step env) (.init memoryCacheEnabled db cache) events) :=
    run_invariant (fun _ _ => follow_step) initially keeps
  obtain ⟨row, found, -, statuses⟩ := follow.row
  refine ⟨⟨row, found, statuses⟩, fun thread call _ ret changes => follow.finished thread call _ ret ?_⟩
  cases call with
  | refresh => exact absurd rfl changes
  | updateStatus => rfl
  | manageKeys => rfl
  | nextKey => exact absurd rfl changes

def twoKeys : Channel :=
  withDefaults
    { id := Nat.toPNat' 1, key := "a\nb", models := "o", channelInfo :=
      { isMultiKey := true, multiKeySize := 2, multiKeyMode := .polling } }
    (Nat.toPNat' 1)

def twoKeysDb : ChannelDb := insert twoKeys (Nat.toPNat' 1) emptyDb

def callOn (thread : Nat) (call : NodeCall) (steps : Nat) :
    List NodeEvent := .call thread call :: replicate steps (.advance thread)

def onTwoKeys (memoryCacheEnabled : Bool) (events : List NodeEvent) : ChannelNode :=
  run (step {}) (.init memoryCacheEnabled twoKeysDb .empty) events

def disablings : List NodeEvent :=
  callOn 0 (.updateStatus (Nat.toPNat' 1) "a" 3) 4 ++ callOn 1 (.nextKey (Nat.toPNat' 1)) 3 ++
    callOn 2 (.manageKeys (Nat.toPNat' 1) (.disableKey (some 1))) 4

theorem key_statuses_kept_disabled :
    ∃ row, (onTwoKeys false disablings).db.channels.find? 1 = some row ∧ ∀ index < (twoKeys.getKeys {}).length,
      row.channelInfo.keyStatus index =
        statusAfter (twoKeys.getKeys {}) 1 twoKeys.channelInfo.keyStatus (onTwoKeys false disablings).effects index :=
  (key_statuses_kept {} false twoKeysDb .empty 1 twoKeys (by decide +kernel) rfl disablings (by decide +kernel)).1

def LosesStatus (node : ChannelNode) (threads : List Nat) (index : Nat) : Prop :=
  (∀ thread ∈ threads, (node.threads thread).any (fun state => hasReturned state.stage) = true) ∧
    (node.db.channels.find? (Nat.toPNat' 1)).map (fun row => row.channelInfo.keyStatus index) ≠
      some (statusAfter (twoKeys.getKeys {}) (Nat.toPNat' 1) twoKeys.channelInfo.keyStatus node.effects index)

instance (node : ChannelNode) (threads : List Nat) (index : Nat) : Decidable (LosesStatus node threads index) :=
  inferInstanceAs (Decidable (_ ∧ _))

theorem key_statuses_lost :
    LosesStatus (onTwoKeys false (callOn 0 (.updateStatus 1 "a" 3) 2 ++
      callOn 1 (.updateStatus 1 "b" 3) 4 ++ [.advance 0, .advance 0])) [0, 1] 1 ∧
    LosesStatus (onTwoKeys false (callOn 0 (.nextKey 1) 1 ++ callOn 1 (.updateStatus 1 "a" 3) 4 ++
      [.advance 0, .advance 0])) [0, 1] 0 ∧
    LosesStatus (onTwoKeys true (callOn 0 .refresh 3 ++ callOn 1 (.manageKeys 1 (.disableKey (some 1))) 1 ++
      callOn 2 (.updateStatus 1 "a" 3) 5 ++ replicate 6 (.advance 1))) [1, 2] 0 ∧
    LosesStatus (onTwoKeys false (callOn 0 (.updateStatus 1 "a" 3) 4 ++
      callOn 1 (.updateStatus 1 "a" 1) 2)) [0, 1] 0 := by
  decide +kernel

end NewApi.Proof
