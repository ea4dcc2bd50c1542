import NewApi.Library.Tally
import NewApi.Model.Counters
import NewApi.Proof.ChannelRows

/-! # No update of a counter is lost -/

namespace NewApi.Proof
open Library Model CounterNode

inductive Counter where
  | user (column : UserColumn) (id : ℕ+)
  | channelUsedQuota (id : ℕ+)

namespace Counter

def value (state : CounterNode) : Counter → Option Int
  | .user column id => state.users.column column.read id
  | .channelUsedQuota id => state.node.db.channels.column (·.usedQuota) id

def delta : Counter → CounterEvent → Int
  | .user column id, .increaseUserQuota changed quota => if id = changed then column.pick quota 0 0 else 0
  | .user column id, .decreaseUserQuota changed quota => if id = changed then column.pick (-quota) 0 0 else 0
  | .user column id, .updateUserQuotaUsedQuotaAndRequestCount changed quota usedQuota requestCount =>
    if id = changed then column.pick quota usedQuota requestCount else 0
  | .channelUsedQuota id, .channels (.useQuota channelId quota) => if id = channelId then quota else 0
  | _, _ => 0

def keepsUsedQuota (id : ℕ+) (channels : Table Channel.id) : NodeCall → NodeStage → Bool
  | .updateStatus channelId _ _, .saving row _ => channelId ≠
      id || (channels.find? id).all fun stored => stored.usedQuota = row.usedQuota
  | .manageKeys channelId _, .updating row _ =>
    channelId ≠ id || row.usedQuota = 0 || (channels.find? id).all fun stored => stored.usedQuota = row.usedQuota
  | _, _ => true

def keeps (state : CounterNode) : Counter → CounterEvent → Bool
  | .user column id, .saveInviter thread => (state.inviters thread).all fun read =>
    read.id ≠ id || (state.users.find? id).all fun stored => column.read stored = column.read read
  | .channelUsedQuota id, .channels (.advance thread) =>
    (state.node.threads thread).all fun thread => keepsUsedQuota id state.node.db.channels thread.call thread.stage
  | _, _ => true

end Counter

section Steps
variable {env : ChannelEnv} {quotaForInviter : Int} {state : CounterNode} {event : CounterEvent}
    {counter : Counter} {column : UserColumn}
  {id changed : ℕ+} {users : Table UserRow.id}

def AddsUp (env : ChannelEnv) (quotaForInviter : Int) (counter : Counter) (state : CounterNode)
    (event : CounterEvent) : Prop :=
  counter.value (state.step env quotaForInviter event) = (counter.value state).map (· + counter.delta event)

theorem addsUp_of_same (same : counter.value (state.step env quotaForInviter event) =
    counter.value state) (none : counter.delta event = 0) :
    AddsUp env quotaForInviter counter state event := by
  simp [AddsUp, same, none]

theorem increaseUserQuota_column (quota : Int) :
    (Counters.increaseUserQuota changed users quota).column column.read id =
    (users.column column.read id).map (· + if id = changed then column.pick quota 0 0 else 0) := by
  refine Table.column_updateWhere changed ?_
  intro _
  cases column <;> simp [UserColumn.read, UserColumn.pick]

theorem decreaseUserQuota_column (quota : Int) :
    (Counters.decreaseUserQuota changed users quota).column column.read id =
    (users.column column.read id).map (· + if id = changed then column.pick (-quota) 0 0 else 0) := by
  refine Table.column_updateWhere changed ?_
  intro _
  cases column <;> simp [UserColumn.read, UserColumn.pick, Int.sub_eq_add_neg]

theorem updateUser_column (quota usedQuota requestCount : Int) :
    (Counters.updateUserQuotaUsedQuotaAndRequestCount changed users quota usedQuota
      requestCount).column column.read id =
      (users.column column.read id).map (· + if id = changed then column.pick quota usedQuota requestCount else 0) := by
  rw [Counters.updateUserQuotaUsedQuotaAndRequestCount]
  by_cases nothing : quota = 0 ∧ usedQuota = 0 ∧ requestCount = 0
  · rw [if_pos nothing]
    obtain ⟨rfl, rfl, rfl⟩ := nothing
    cases column <;> simp [UserColumn.pick]
  · rw [if_neg nothing]
    refine Table.column_updateWhere changed ?_
    intro _
    cases column <;> rfl

theorem read_invited (row) : column.read (row.invited quotaForInviter) = column.read row := by
  cases column <;> rfl

theorem saveInviter_column (row) : (users.save (row.invited quotaForInviter)).column column.read
    id = users.column column.read id ↔
    (row.id ≠ id || (users.find? id).all fun stored => column.read stored = column.read row) = true := by
  have named : (row.invited quotaForInviter).id = row.id := rfl
  unfold Table.column
  rw [Table.find?_save, named]
  by_cases same : id = row.id
  · rw [if_pos same]
    cases users.find? id with
    | none => simp
    | some => simp [read_invited, same, eq_comm]
  · rw [if_neg same]
    simp [Ne.symm same]

theorem user_step : AddsUp env quotaForInviter (.user column id) state event ↔
    (Counter.user column id).keeps state event = true := by
  cases event with
  | increaseUserQuota _ quota => exact iff_of_true (increaseUserQuota_column quota) rfl
  | decreaseUserQuota _ quota => exact iff_of_true (decreaseUserQuota_column quota) rfl
  | updateUserQuotaUsedQuotaAndRequestCount _ quota usedQuota requestCount =>
    exact iff_of_true (updateUser_column quota usedQuota requestCount) rfl
  | readInviter thread inviterId | channels event => exact iff_of_true (addsUp_of_same rfl rfl) rfl
  | saveInviter thread =>
    cases read : state.inviters thread with
    | none => exact iff_of_true (addsUp_of_same (by simp [CounterNode.step, read]) rfl) (by simp [Counter.keeps, read])
    | some row =>
      have saved : AddsUp env quotaForInviter (.user column id) state (.saveInviter thread) ↔
          (state.users.save (row.invited quotaForInviter)).column column.read id =
            state.users.column column.read id := by
        simp [AddsUp, Counter.value, Counter.delta, CounterNode.step, read]
      rw [saved, saveInviter_column]
      simp [Counter.keeps, read]

theorem updateChannelUsedQuota_column {channels} (changed : ℕ+) (quota : Int) :
    (updateChannelUsedQuota changed quota channels).column (·.usedQuota) id =
      (channels.column (·.usedQuota) id).map (· + if id = changed then quota else 0) := by
  refine Table.column_updateWhere changed ?_
  intro _
  rfl

def countedHand : NodeCall → NodeStage → Prop
  | .updateStatus channelId _ _, .handling row => row.id = channelId
  | .updateStatus channelId _ _, .saving row updated => updated.id = channelId ∧ updated.usedQuota = row.usedQuota
  | .manageKeys _ _, .updating row changed => changed.usedQuota = row.usedQuota
  | _, _ => True

def CountedHands (state : CounterNode) : Prop :=
  ∀ thread call stage, state.node.threads thread = some ⟨call, stage⟩ → countedHand call stage

theorem updatedRow_usedQuota (env) (row : Channel) (usingKey : String) (status : Int) :
    (ChannelNode.updatedRow env row usingKey status).usedQuota = row.usedQuota := by
  unfold ChannelNode.updatedRow
  split_ifs
  · obtain ⟨_, _, handled, -⟩ := handler_status env row usingKey status
    rw [handled]
  · rfl

theorem moves_counted {node call stage next channels effects}
    (hand : countedHand call stage) (moves : NodeMoves env node call stage next channels effects) :
    countedHand call next := by
  cases moves with
  | passes empty before | saved row updated empty =>
    unfold countedHand
    split <;> trivial
  | fetched found =>
    have named := (Table.find?_eq_some.mp found).2
    split_ifs with several
    · exact named
    · exact ⟨(updatedRow_id env _ _ _).trans named, updatedRow_usedQuota env _ _ _⟩
  | handled => exact ⟨(updatedRow_id env _ _ _).trans hand, updatedRow_usedQuota env _ _ _⟩
  | prepared =>
    show Channel.usedQuota (Channel.countKeys _ _ _) = _
    unfold Channel.countKeys
    split_ifs <;> rfl
  | _ => trivial

theorem countedHands_step (hands : CountedHands state) : CountedHands (state.step env quotaForInviter event) := by
  cases event with
  | channels => exact threads_step (fun call => by cases call <;> trivial) moves_counted hands
  | saveInviter thread =>
    cases read : state.inviters thread with
    | none => simpa only [step, read] using hands
    | some =>
      simp only [step, read]
      exact hands
  | _ => exact hands

theorem saved_usedQuota {channels} {row updated : Channel} (same : updated.usedQuota = row.usedQuota) :
    (saveWithoutKey updated channels).column (·.usedQuota) id = channels.column (·.usedQuota) id ↔
      (updated.id ≠ id || (channels.find? id).all fun stored => stored.usedQuota = row.usedQuota) = true := by
  unfold Table.column
  rw [find?_saveWithoutKey]
  by_cases named : id = updated.id
  · rw [if_pos named]
    cases channels.find? id with
    | none => simp
    | some => simp [same, named, eq_comm]
  · rw [if_neg named]
    simp [Ne.symm named]

theorem columns_usedQuota {channels} {channelId : ℕ+} {row changed : Channel}
    (same : changed.usedQuota = row.usedQuota) :
    (updateColumns channelId changed channels).column (·.usedQuota) id = channels.column (·.usedQuota) id ↔
      (channelId ≠ id || row.usedQuota = 0 || (channels.find? id).all fun stored =>
        stored.usedQuota = row.usedQuota) = true := by
  unfold Table.column
  rw [find?_updateColumns]
  by_cases named : id = channelId
  · rw [if_pos named]
    cases channels.find? id with
    | none => simp
    | some stored =>
      have written : (stored.updates changed).usedQuota = if row.usedQuota =
        0 then stored.usedQuota else row.usedQuota := by
        rw [← same]
        rfl
      by_cases zero : row.usedQuota = 0
      · simp [written, zero]
      · simp [written, zero, named, eq_comm]
  · rw [if_neg named]
    simp [Ne.symm named]

theorem rowsAfter_usedQuota {channels call stage} (hand : countedHand call stage) :
    (rowsAfter channels call stage).column (·.usedQuota) id = channels.column (·.usedQuota) id ↔
      Counter.keepsUsedQuota id channels call stage = true := by
  cases call with
  | refresh => exact iff_of_true rfl rfl
  | updateStatus =>
    cases stage with
    | saving =>
      obtain ⟨rfl, same⟩ := hand
      exact saved_usedQuota same
    | _ => exact iff_of_true rfl rfl
  | manageKeys =>
    cases stage with
    | updating => exact columns_usedQuota hand
    | _ => exact iff_of_true rfl rfl
  | nextKey =>
    cases stage with
    | storing =>
      refine iff_of_true ?_ rfl
      unfold Table.column
      rw [rowsAfter, find?_saveChannelInfo]
      split_ifs
      · cases channels.find? id <;> rfl
      · rfl
    | _ => exact iff_of_true rfl rfl

theorem channel_step (hands : CountedHands state) :
    AddsUp env quotaForInviter (.channelUsedQuota id) state event ↔
      (Counter.channelUsedQuota id).keeps state event = true := by
  cases event with
  | saveInviter thread =>
    refine iff_of_true (addsUp_of_same ?_ rfl) rfl
    cases read : state.inviters thread <;> simp only [step, read, Counter.value]
  | channels event =>
    cases event with
    | call thread =>
      refine iff_of_true (addsUp_of_same ?_ rfl) rfl
      cases taken : state.node.threads thread <;> simp only [step, ChannelNode.step, taken,
        Counter.value, ChannelNode.goTo]
    | advance thread =>
      cases found : state.node.threads thread with
      | none =>
        refine iff_of_true (addsUp_of_same ?_ rfl) (by simp [Counter.keeps, found])
        simp only [step, ChannelNode.step, ChannelNode.advance, found]
      | some taken =>
        obtain ⟨call, stage⟩ := taken
        have rows : (Counter.channelUsedQuota id).value (state.step env quotaForInviter (.channels (.advance thread))) =
            (rowsAfter state.node.db.channels call stage).column (·.usedQuota) id :=
          congrArg (Table.column (fun row : Channel => row.usedQuota) id) (advance_rows found)
        have nothing : (Counter.channelUsedQuota id).delta (.channels (.advance thread)) = 0 := rfl
        rw [AddsUp, rows, nothing]
        simp only [Int.add_zero, Option.map_id', Counter.value, Counter.keeps, found, Option.all_some]
        exact rowsAfter_usedQuota (hands thread call stage found)
    | useQuota channelId quota => exact iff_of_true (updateChannelUsedQuota_column channelId quota) rfl
  | _ => exact iff_of_true (addsUp_of_same rfl rfl) rfl

theorem counter_step (hands : CountedHands state) :
    Tallies (CounterNode.step env quotaForInviter) counter.value counter.delta state [event] ↔
      counter.keeps state event = true := by
  have once : Tallies (CounterNode.step env quotaForInviter) counter.value counter.delta state [event] ↔
      AddsUp env quotaForInviter counter state event := by
    simp [AddsUp, Tallies, run, tally]
  rw [once]
  cases counter with
  | user => exact user_step
  | channelUsedQuota => exact channel_step hands

end Steps

theorem counters_add_up (env : ChannelEnv) (quotaForInviter : Int) (users : Table UserRow.id)
    (memoryCacheEnabled : Bool) (db : ChannelDb)
    (cache : ChannelCache) (counter : Counter) (events : List CounterEvent) :
    (∀ first, first <+: events → Tallies (CounterNode.step env quotaForInviter) counter.value counter.delta
        ⟨users, ChannelNode.init memoryCacheEnabled db cache, fun _ => none⟩ first) ↔
      Along (CounterNode.step env quotaForInviter) (fun state event => counter.keeps state event = true)
        ⟨users, ChannelNode.init memoryCacheEnabled db cache, fun _ => none⟩ events := by
  refine tallies_iff_along (fun _ _ => countedHands_step) (fun _ _ hands => counter_step hands) ?_
  intro _ _ _ found
  cases found

def countedNode : CounterNode :=
  ⟨Table.empty.insert { id := Nat.toPNat' 1, quota := 100 },
    .init false (Channel.insert (sampleChannel none) (Nat.toPNat' 1) emptyDb) .empty, fun _ => none⟩

def statusRead : List CounterEvent := [.channels (.call 0 (.updateStatus (Nat.toPNat' 1) "" 3)),
    .channels (.advance 0), .channels (.advance 0)]

theorem counters_add_up_beside_invitation : ¬countedNode.users.rows = [] ∧
    ∀ first, first <+: [.increaseUserQuota 1 50, .readInviter 0 1, .decreaseUserQuota 2 7,
      .saveInviter 0, .decreaseUserQuota 1 20] →
      Tallies (CounterNode.step {} 10) (Counter.user .quota 1).value (Counter.user .quota 1).delta countedNode first :=
  ⟨by decide +kernel,
    (counters_add_up {} 10 countedNode.users false countedNode.node.db .empty
      (.user .quota 1) _).mpr (by decide +kernel)⟩

theorem counters_lose_updates : ¬Tallies (CounterNode.step {} 10) (Counter.user .quota 1).value
    (Counter.user .quota 1).delta countedNode
      [.readInviter 0 1, .increaseUserQuota 1 50, .saveInviter 0] ∧
    ¬Tallies (CounterNode.step {} 10) (Counter.channelUsedQuota 1).value (Counter.channelUsedQuota 1).delta countedNode
      (statusRead ++ [.channels (.useQuota 1 30), .channels (.advance 0), .channels (.advance 0)]) := by
  unfold Tallies
  decide +kernel

end NewApi.Proof
