import Mathlib.Data.List.Rotate
import NewApi.Proof.EnabledKeys

/-! # Keys in turn -/

namespace NewApi.Proof
open Library Model ChannelStore List

section Turn
variable {size start index : Nat} {enabled rest : List Nat}

def turn (size : Nat) (enabled : List Nat) (start : Nat) : List Nat := ((range size).rotate start).filter (· ∈ enabled)

theorem nextIndex_eq : nextIndex size enabled start = (turn size enabled start).head? := by
  have around : ((range size).map fun offset => (start + offset) % size) = (range size).rotate start := by
    apply ext_getElem (by simp)
    intro _ _ _
    simp [getElem_rotate, Nat.add_comm]
  rw [nextIndex, around, turn, head?_filter]

theorem turn_next (turned : turn size enabled start = index :: rest) :
    turn size enabled ((index + 1) % size) = rest ++ [index] := by
  obtain ⟨skipped, later, split, none, among, rfl⟩ := filter_eq_cons_iff.mp turned
  have length : ((range size).rotate start).length = size := by simp
  have position : index = (skipped.length + start) % size := by
    have found : ((range size).rotate start)[skipped.length]? = some index := by simp [split]
    obtain ⟨_, located⟩ := List.getElem?_eq_some_iff.mp found
    rw [getElem_rotate] at located
    simpa using located.symm
  have rotated : (range size).rotate ((index + 1) % size) = later ++ (skipped ++ [index]) := by
    have moved : (range size).rotate ((index + 1) % size) =
      ((range size).rotate start).rotate (skipped ++ [index]).length := by
      rw [rotate_rotate, ← rotate_mod _ (start + _), length_range, position]
      congr 1
      simp [Nat.add_comm, Nat.add_assoc]
    rw [moved, split, show skipped ++ index :: later = (skipped ++ [index]) ++ later by simp, rotate_append_length_eq]
  have passed : skipped.filter (· ∈ enabled) = [] := filter_eq_nil_iff.mpr none
  rw [turn, rotated, filter_append, filter_append, passed]
  simp [of_decide_eq_true among]

theorem turn_isRotated (keys : List String) (info) (start : Nat) :
    turn keys.length (enabledIndexes keys info) start ~r enabledIndexes keys info := by
  have whole : enabledIndexes keys info = (range keys.length).filter (· ∈ enabledIndexes keys info) := by
    conv_lhs => rw [enabledIndexes]
    apply filter_congr
    intro _ below
    simp [mem_enabledIndexes, mem_range.mp below]
  conv_rhs => rw [whole]
  rw [turn, rotate_eq_drop_append_take_mod, filter_append]
  conv_rhs => rw [← take_append_drop (start % (range keys.length).length) (range keys.length), filter_append]
  exact isRotated_append

end Turn

def withIndex (channel : Channel) (index : Int) : Channel :=
  { channel with channelInfo := { channel.channelInfo with multiKeyPollingIndex := index } }

def pollingStart (size : Nat) (index : Int) : Nat := if index < 0 ∨ size ≤ index then 0 else index.toNat

section Calls
variable {env : ChannelEnv} {store : ChannelStore} {channel : Channel} {saved : Int} {loaded : Bool}

def upcoming (env : ChannelEnv) (channel : Channel) (saved : Int) : List Nat :=
  turn (channel.getKeys env).length (enabledIndexes (channel.getKeys env) channel.channelInfo)
    (pollingStart (channel.getKeys env).length saved)

def numbered (env : ChannelEnv) (channel : Channel) (index : Nat) :
    Nat × String := (index, ((channel.getKeys env)[index]?).getD "")

theorem elim_ok {α : Type} {found reason value} :
    found.elim (.error reason) Except.ok = (.ok value : Except String α) ↔ found = some value := by
  cases found <;> simp

theorem upcoming_ne_nil (some : enabledIndexes (channel.getKeys env) channel.channelInfo ≠ []) (saved : Int) :
    upcoming env channel saved ≠ [] := fun none =>
  some (isRotated_nil_iff'.mp (none ▸ turn_isRotated _ _ _)).symm

theorem upcoming_mem {index rest} (next : upcoming env channel saved = index :: rest) :
    index ∈ enabledIndexes (channel.getKeys env) channel.channelInfo :=
  (turn_isRotated _ _ _).perm.mem_iff.mp (next ▸ mem_cons_self)

theorem upcoming_next {index rest} (next : upcoming env channel saved = index :: rest) :
    upcoming env channel ((index + 1) % (channel.getKeys env).length : Nat) = rest ++ [index] := by
  have listed := upcoming_mem next
  have within := Nat.mod_lt (index + 1) (Nat.zero_lt_of_lt (mem_enabledIndexes.mp listed).1)
  have start : pollingStart (channel.getKeys env).length ((index + 1) % (channel.getKeys env).length : Nat) =
      (index + 1) % (channel.getKeys env).length := by
    rw [pollingStart, if_neg (by omega), Int.toNat_natCast]
  rw [upcoming, start]
  exact turn_next next

variable (several : channel.channelInfo.isMultiKey = true) (polling : channel.channelInfo.multiKeyMode = .polling)
include several polling

theorem getNextEnabledKey_upcoming {index rest} (next : upcoming env channel saved = index :: rest) (draw : Nat) :
    (withIndex channel saved).getNextEnabledKey env (some saved) draw =
      .ok ⟨((channel.getKeys env)[index]?).getD "", index,
        withIndex channel ((index + 1) % (channel.getKeys env).length : Nat)⟩ := by
  have listed := upcoming_mem next
  have present : channel.getKeys env ≠ [] := by
    intro none
    rw [none] at listed
    simp [enabledIndexes] at listed
  have found : nextIndex (channel.getKeys env).length (enabledIndexes (channel.getKeys env) channel.channelInfo)
      (pollingStart (channel.getKeys env).length saved) = some index := by
    rw [nextIndex_eq]
    exact congrArg head? next
  have keys : (withIndex channel saved).getKeys env = channel.getKeys env := rfl
  have statuses : enabledIndexes (channel.getKeys env) (withIndex channel saved).channelInfo =
      enabledIndexes (channel.getKeys env) channel.channelInfo := rfl
  unfold Channel.getNextEnabledKey
  rw [if_neg (by simp [withIndex, several])]
  dsimp only
  rw [keys, if_neg present, statuses]
  cases shape : enabledIndexes (channel.getKeys env) channel.channelInfo with
  | nil => simp [shape] at listed
  | cons =>
    rw [shape] at found
    simp only [pollingStart] at found
    simp only [withIndex, polling, found]

theorem pollKey_upcoming (kept : store.memoryCacheEnabled = true → loaded = false)
    (stored : store.cacheGetChannel channel.id = .ok (withIndex channel saved)) {index rest}
    (next : upcoming env channel saved = index :: rest) :
    ∃ after, store.pollKey env channel.id loaded = (some (numbered env channel index), after) ∧
      after.memoryCacheEnabled = store.memoryCacheEnabled ∧
      after.cacheGetChannel channel.id =
        .ok (withIndex channel ((index + 1) % (channel.getKeys env).length : Nat)) := by
  have object :
    (if loaded then store.getChannelById channel.id else store.cacheGetChannel channel.id) =
    .ok (withIndex channel saved) := by
    split_ifs with fresh
    · rw [← stored, cacheGetChannel, if_neg fun enabled => by simp [kept enabled] at fresh]
    · exact stored
  have place : store.pollingIndex channel.id = some saved := by
    rw [pollingIndex, stored]
    rfl
  rw [pollKey, object, place]
  dsimp only
  rw [getNextEnabledKey_upcoming several polling next]
  refine ⟨_, rfl, ?_⟩
  cases enabled : store.memoryCacheEnabled with
  | false =>
    simp only [cacheGetChannel, enabled, getChannelById, Bool.false_eq_true, if_false] at stored
    have row := elim_ok.mp stored
    simp only [cacheGetChannel, getChannelById, Bool.false_eq_true, if_false, if_true, saveChannelInfo,
      true_and, elim_ok]
    exact (Table.find?_updateWhere channel.id _ _).trans (by simp [row, withIndex])
  | true =>
    simp only [cacheGetChannel, enabled, if_true] at stored
    simp only [cacheGetChannel, kept enabled, Bool.true_eq_false, Bool.false_eq_true, if_true,
      if_false, true_and, elim_ok]
    rw [Table.find?_save_of_some (elim_ok.mp stored) (by rfl), if_pos rfl]

theorem pollKeys_upcoming (kept : store.memoryCacheEnabled = true → loaded = false)
    (stored : store.cacheGetChannel channel.id = .ok (withIndex channel saved)) (count : Nat)
    (few : count ≤ (upcoming env channel saved).length) :
    (pollKeys env channel.id loaded count store).1 = ((upcoming env channel saved).take count).map
      (numbered env channel) := by
  induction count generalizing store saved with
  | zero => rfl
  | succ _ ih =>
    cases next : upcoming env channel saved with
    | nil => simp [next] at few
    | cons =>
      obtain ⟨_, called, same, left⟩ := pollKey_upcoming several polling kept stored next
      have later := upcoming_next next
      simp only [next, length_cons] at few
      have others := ih (same ▸ kept) left (by rw [later, length_append]; omega)
      rw [later, take_append_of_le_length (by omega)] at others
      simp only [pollKeys, called, others, Option.toList_some, singleton_append, take_succ_cons, map_cons]

theorem pollKeys_stored (some : enabledIndexes (channel.getKeys env) channel.channelInfo ≠ [])
    (kept : store.memoryCacheEnabled = true → loaded = false)
    (stored : store.cacheGetChannel channel.id = .ok (withIndex channel saved)) (count : Nat) :
    let after := (pollKeys env channel.id loaded count store).2
    after.memoryCacheEnabled = store.memoryCacheEnabled ∧
      ∃ saved, after.cacheGetChannel channel.id = .ok (withIndex channel saved) := by
  induction count generalizing store saved with
  | zero => exact ⟨rfl, saved, stored⟩
  | succ _ ih =>
    obtain ⟨_, _, next⟩ := exists_cons_of_ne_nil (upcoming_ne_nil some saved)
    obtain ⟨_, called, same, left⟩ := pollKey_upcoming several polling kept stored next
    rw [← same] at kept ⊢
    simpa only [pollKeys, called] using ih kept left

end Calls

/-- As many calls as there are enabled keys return each once, in order; with the cache on, calls on
the cached object. -/
theorem keys_polled_in_turn (env : ChannelEnv) (store : ChannelStore) (channel : Channel) (loaded : Bool)
    (stored : store.cacheGetChannel channel.id = .ok channel) (several : channel.channelInfo.isMultiKey = true)
    (polling : channel.channelInfo.multiKeyMode = .polling)
    (some : enabledIndexes (channel.getKeys env) channel.channelInfo ≠ [])
    (kept : store.memoryCacheEnabled = true → loaded = false)
    (earlier : Nat) :
    let enabled := enabledIndexes (channel.getKeys env) channel.channelInfo
    let before := (pollKeys env channel.id loaded earlier store).2
    (pollKeys env channel.id loaded enabled.length before).1 ~r
      enabled.map fun index => (index, ((channel.getKeys env)[index]?).getD "") := by
  obtain ⟨same, saved, left⟩ := pollKeys_stored several polling some kept
    (show store.cacheGetChannel channel.id =
    .ok (withIndex channel channel.channelInfo.multiKeyPollingIndex) from stored) earlier
  have rotated : upcoming env channel saved ~r enabledIndexes
    (channel.getKeys env) channel.channelInfo := turn_isRotated _ _ _
  have count := rotated.perm.length_eq
  dsimp only
  rw [← count, pollKeys_upcoming several polling (same ▸ kept) left _ le_rfl, take_length]
  exact rotated.map _

def pollingChannel : Channel := { id := Nat.toPNat' 1, key := "a\nb\nc", channelInfo :=
  { isMultiKey := true, multiKeySize := 3, multiKeyStatusList :=
    [(1, 2)], multiKeyPollingIndex := -7, multiKeyMode := .polling } }

def pollingStore (memoryCacheEnabled : Bool) : ChannelStore where
  memoryCacheEnabled := memoryCacheEnabled
  db := ⟨⟨[pollingChannel], by decide⟩, Table.empty⟩
  cache := { ChannelCache.empty with channelsIDM := ⟨[pollingChannel], by decide⟩ }

theorem keys_polled_uncached :
    (pollKeys {} 1 true 2 (pollKeys {} 1 true 5 (pollingStore false)).2).1 ~r [(0, "a"), (2, "c")] :=
  keys_polled_in_turn {} (pollingStore false) pollingChannel true rfl rfl rfl (by decide) (by decide) 5

theorem loaded_key_repeated : (pollKeys {} 1 true 3 (pollingStore true)).1 = [(0, "a"), (0, "a"), (0, "a")] := by
  decide

end NewApi.Proof
