import Mathlib.Data.List.Dedup
import NewApi.Library.Ledger
import NewApi.Model.Counters

/-!
# Counters in batches

The calls add to five stores, one lock each. A pass of `batchUpdate` takes the stores in turn and
writes what it has taken.
-/

namespace NewApi.Model
open Library Counters

structure CounterDb where
  users : Table UserRow.id
  tokens : Table TokenRow.id
  channels : Table Channel.id

inductive CounterStatement where
  | increaseUserQuota (id : ℕ+) (quota : Int)
  | decreaseUserQuota (id : ℕ+) (quota : Int)
  | updateUserUsedQuotaAndRequestCount (id : ℕ+) (quota count : Int)
  | updateUserQuotaUsedQuotaAndRequestCount (id : ℕ+) (quota usedQuota requestCount : Int)
  | increaseTokenQuota (id : ℕ+) (quota : Int)
  | decreaseTokenQuota (id : ℕ+) (quota : Int)
  | updateChannelUsedQuota (id : ℕ+) (quota : Int)

def CounterDb.exec (db : CounterDb) : CounterStatement → CounterDb
  | .increaseUserQuota id quota => { db with users := Counters.increaseUserQuota id db.users quota }
  | .decreaseUserQuota id quota => { db with users := Counters.decreaseUserQuota id db.users quota }
  | .updateUserUsedQuotaAndRequestCount id quota count =>
    { db with users := updateUserUsedQuotaAndRequestCount id db.users quota count }
  | .updateUserQuotaUsedQuotaAndRequestCount id quota usedQuota requestCount =>
    { db with users := updateUserQuotaUsedQuotaAndRequestCount id db.users quota usedQuota requestCount }
  | .increaseTokenQuota id quota => { db with tokens := Counters.increaseTokenQuota id db.tokens quota }
  | .decreaseTokenQuota id quota => { db with tokens := Counters.decreaseTokenQuota id db.tokens quota }
  | .updateChannelUsedQuota id quota => { db with channels := updateChannelUsedQuota id quota db.channels }

inductive BatchUpdateType where
  | userQuota | tokenQuota | usedQuota | channelUsedQuota | requestCount
deriving DecidableEq

def BatchUpdateType.all :
    List BatchUpdateType := [.userQuota, .tokenQuota, .usedQuota, .channelUsedQuota, .requestCount]

structure BatchStore where
  entries : Ledger ℕ+
  unique : entries.keys.Nodup

namespace BatchStore

def empty : BatchStore := ⟨[], List.nodup_nil⟩

def get (store : BatchStore) (id : ℕ+) : Int := store.entries.net id

def add (store : BatchStore) (id : ℕ+) (value : Int) : BatchStore :=
    ⟨store.entries.post id value, Ledger.nodup_keys_post store.unique⟩

end BatchStore

abbrev BatchStores := BatchUpdateType → BatchStore

def addNewRecord (type : BatchUpdateType) (id : ℕ+) (value : Int) (stores : BatchStores) : BatchStores :=
  Function.update stores type ((stores type).add id value)

inductive CounterCall where
  | increaseUserQuota (id : ℕ+) (quota : Int) (db : Bool)
  | decreaseUserQuota (id : ℕ+) (quota : Int) (db : Bool)
  | increaseTokenQuota (id : ℕ+) (quota : Int)
  | decreaseTokenQuota (id : ℕ+) (quota : Int)
  | updateUserUsedQuotaAndRequestCount (id : ℕ+) (quota : Int)
  | updateChannelUsedQuota (id : ℕ+) (quota : Int)

inductive CallStep where
  | addNewRecord (type : BatchUpdateType) (id : ℕ+) (value : Int)
  | exec (statement : CounterStatement)

def CounterCall.steps (batchUpdateEnabled : Bool) : CounterCall → List CallStep
  | .increaseUserQuota id quota db =>
    if quota < 0 then []
    else if !db && batchUpdateEnabled then [.addNewRecord .userQuota id quota]
    else [.exec (.increaseUserQuota id quota)]
  | .decreaseUserQuota id quota db =>
    if quota < 0 then []
    else if !db && batchUpdateEnabled then [.addNewRecord .userQuota id (-quota)]
    else [.exec (.decreaseUserQuota id quota)]
  | .increaseTokenQuota id quota =>
    if quota < 0 then []
    else if batchUpdateEnabled then [.addNewRecord .tokenQuota id quota]
    else [.exec (.increaseTokenQuota id quota)]
  | .decreaseTokenQuota id quota =>
    if quota < 0 then []
    else if batchUpdateEnabled then [.addNewRecord .tokenQuota id (-quota)]
    else [.exec (.decreaseTokenQuota id quota)]
  | .updateUserUsedQuotaAndRequestCount id quota =>
    if batchUpdateEnabled then [.addNewRecord .usedQuota id quota, .addNewRecord .requestCount id 1]
    else [.exec (.updateUserUsedQuotaAndRequestCount id quota 1)]
  | .updateChannelUsedQuota id quota =>
    if batchUpdateEnabled then [.addNewRecord .channelUsedQuota id quota]
    else [.exec (.updateChannelUsedQuota id quota)]

def CounterDb.call (db : CounterDb) (call : CounterCall) : CounterDb :=
  (call.steps false).foldl (fun db step => match step with
    | .exec statement => db.exec statement
    | .addNewRecord _ _ _ => db) db

inductive BatchStage where
  | checking (types : List BatchUpdateType)
  | swapping (types : List BatchUpdateType) (stores : BatchStores)
  | writing (loops : List (List CounterStatement))
  | finished

def userIDs (stores : BatchStores) : List ℕ+ :=
  ((stores .userQuota).entries.keys ++ (stores .usedQuota).entries.keys ++ (stores .requestCount).entries.keys).dedup

def passLoops (stores : BatchStores) : List (List CounterStatement) :=
  [(stores .tokenQuota).entries.map fun entry => .increaseTokenQuota entry.1 entry.2,
   (stores .channelUsedQuota).entries.map fun entry => .updateChannelUsedQuota entry.1 entry.2,
   (userIDs stores).map fun id =>
     .updateUserQuotaUsedQuotaAndRequestCount id ((stores .userQuota).get id)
       ((stores .usedQuota).get id) ((stores .requestCount).get id)]

structure BatchState where
  db : CounterDb
  stores : BatchStores
  calls : List (List CallStep)
  passes : List BatchStage

def BatchState.init (db : CounterDb) : BatchState := ⟨db, fun _ => .empty, [], []⟩

def BatchState.callStep (state : BatchState) : CallStep → BatchState
  | .addNewRecord type id value => { state with stores := addNewRecord type id value state.stores }
  | .exec statement => { state with db := state.db.exec statement }

def BatchState.passStep (state : BatchState) (choice : Nat) : BatchStage → BatchState × BatchStage
  | .checking [] => (state, .finished)
  | .checking (type :: types) =>
    (state, if (state.stores type).entries = [] then .checking types else .swapping BatchUpdateType.all fun _ => .empty)
  | .swapping [] taken => (state, .writing (passLoops taken))
  | .swapping (type :: types) taken =>
    ({ state with stores := Function.update state.stores type .empty },
      .swapping types (Function.update taken type (state.stores type)))
  | .writing [] => (state, .finished)
  | .writing ([] :: loops) => (state, .writing loops)
  | .writing ((first :: rest) :: loops) =>
    let statements := first :: rest
    let next := choice % statements.length
    ({ state with db := state.db.exec (statements.getD next first) }, .writing (statements.eraseIdx next :: loops))
  | .finished => (state, .finished)

inductive BatchEvent where
  | call (call : CounterCall)
  | advanceCall (index : Nat)
  | startPass
  | advancePass (index choice : Nat)

def BatchState.step (state : BatchState) : BatchEvent → BatchState
  | .call call => { state with calls := state.calls ++ [call.steps true] }
  | .advanceCall index =>
    match state.calls[index]? with
    | some (next :: rest) => { state.callStep next with calls := state.calls.set index rest }
    | _ => state
  | .startPass => { state with passes := state.passes ++ [.checking BatchUpdateType.all] }
  | .advancePass index choice =>
    match state.passes[index]? with
    | some stage =>
      let (after, next) := state.passStep choice stage
      { after with passes := state.passes.set index next }
    | none => state

def CounterDb.unbatched (db : CounterDb) : BatchEvent → CounterDb
  | .call call => db.call call
  | _ => db

end NewApi.Model
