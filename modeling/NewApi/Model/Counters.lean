import NewApi.Model.ChannelNode

/-!
# Counters of users, tokens and channels

Most statements add to the columns of one row. `inviteUser` and a change of the status of a channel
read a row and save all of it.
-/

namespace NewApi.Model
open Library

structure UserRow where
  id : ℕ+
  (quota usedQuota requestCount affCount affQuota affHistoryQuota : Int := 0)

structure TokenRow where
  id : ℕ+
  (remainQuota usedQuota : Int := 0)

inductive UserColumn where
  | quota | usedQuota | requestCount

def UserColumn.pick (quota usedQuota requestCount : Int) : UserColumn → Int
  | .quota => quota
  | .usedQuota => usedQuota
  | .requestCount => requestCount

def UserColumn.read (column : UserColumn) (row : UserRow) : Int := column.pick row.quota row.usedQuota row.requestCount

namespace Counters

section Users
variable (id : ℕ+) (users : Table UserRow.id)

def increaseUserQuota (quota : Int) : Table UserRow.id :=
  users.updateWhere (·.id = id) (fun row => { row with quota := row.quota + quota }) fun _ => rfl

def decreaseUserQuota (quota : Int) : Table UserRow.id :=
  users.updateWhere (·.id = id) (fun row => { row with quota := row.quota - quota }) fun _ => rfl

def updateUserUsedQuotaAndRequestCount (quota count : Int) : Table UserRow.id :=
  users.updateWhere (·.id = id) (fun row => { row with usedQuota := row.usedQuota + quota, requestCount := row.requestCount + count }) fun _ => rfl

def updateUserQuotaUsedQuotaAndRequestCount (quota usedQuota requestCount : Int) : Table UserRow.id :=
  if quota = 0 ∧ usedQuota = 0 ∧ requestCount = 0 then users
  else users.updateWhere (·.id = id) (fun row => { row with
    quota := row.quota + quota, usedQuota := row.usedQuota + usedQuota, requestCount :=
      row.requestCount + requestCount }) fun _ => rfl

end Users

section Tokens
variable (id : ℕ+) (tokens : Table TokenRow.id)

def increaseTokenQuota (quota : Int) : Table TokenRow.id :=
  tokens.updateWhere (·.id = id) (fun row => { row with remainQuota := row.remainQuota + quota, usedQuota := row.usedQuota - quota }) fun _ => rfl

def decreaseTokenQuota (quota : Int) : Table TokenRow.id :=
  tokens.updateWhere (·.id = id) (fun row => { row with remainQuota := row.remainQuota - quota, usedQuota := row.usedQuota + quota }) fun _ => rfl

end Tokens

end Counters

def UserRow.invited (quotaForInviter : Int) (row : UserRow) : UserRow :=
  { row with
    affCount := row.affCount + 1
    affQuota := row.affQuota + quotaForInviter
    affHistoryQuota := row.affHistoryQuota + quotaForInviter }

structure CounterNode where
  users : Table UserRow.id
  node : ChannelNode
  inviters : Nat → Option UserRow

inductive CounterEvent where
  | increaseUserQuota (id : ℕ+) (quota : Int)
  | decreaseUserQuota (id : ℕ+) (quota : Int)
  | updateUserQuotaUsedQuotaAndRequestCount (id : ℕ+) (quota usedQuota requestCount : Int)
  | readInviter (thread : Nat) (inviterId : ℕ+)
  | saveInviter (thread : Nat)
  | channels (event : NodeEvent)

def CounterNode.step (env : ChannelEnv) (quotaForInviter : Int) (state : CounterNode) : CounterEvent → CounterNode
  | .increaseUserQuota id quota => { state with users := Counters.increaseUserQuota id state.users quota }
  | .decreaseUserQuota id quota => { state with users := Counters.decreaseUserQuota id state.users quota }
  | .updateUserQuotaUsedQuotaAndRequestCount id quota usedQuota requestCount =>
    { state with users := Counters.updateUserQuotaUsedQuotaAndRequestCount id state.users quota usedQuota requestCount }
  | .readInviter thread inviterId => { state with inviters := Function.update state.inviters thread (state.users.find? inviterId) }
  | .saveInviter thread =>
    match state.inviters thread with
    | none => state
    | some row => { state with
        users := state.users.save (row.invited quotaForInviter)
        inviters := Function.update state.inviters thread none }
  | .channels event => { state with node := state.node.step env event }

end NewApi.Model
