import NewApi.Library.Run
import NewApi.Model.Subscription

/-!
# Concurrent calls for one request

`PreConsumeUserSubscription` called any number of times with one request id and user, statement by
statement. A plain read sees what has been committed. The locking read waits for the rows it reads,
an insert for an uncommitted record of the request id.
-/

namespace NewApi.Model
open Library Common

inductive PreConsumeStage where
  | findRecord
  | findSubscription (record : SubscriptionPreConsumeRecord)
  | lock
  | plan (candidates : List UserSubscription)
  | reset (candidate : UserSubscription) (plan : SubscriptionPlan) (rest : List UserSubscription)
  | create (sub : UserSubscription)
  | findDuplicate (sub : UserSubscription) (reason : String)
  | save (sub : UserSubscription)
  | commit (result : SubscriptionPreConsumeResult)
  | returned (result : Except String SubscriptionPreConsumeResult)
deriving DecidableEq

structure PreConsumeCall where
  (amount now : Int)
  stage : PreConsumeStage
  written : List UserSubscription := []
  created : Option SubscriptionPreConsumeRecord := none
deriving DecidableEq

/-- `rowLocks` answers the call that holds the lock of a subscription, `keyLock` the one that has created
the record and not yet committed. -/
structure PreConsumeRace where
  store : SubscriptionStore
  calls : Nat → Option PreConsumeCall
  rowLocks : Int → Option Nat
  keyLock : Option Nat

inductive PreConsumeEvent where
  | call (id : Nat) (amount now : Int)
  | advance (id : Nat) (fault : Option String)

namespace PreConsumeCall

def goTo (call : PreConsumeCall) (stage : PreConsumeStage) : PreConsumeCall := { call with stage := stage }

def committed (call : PreConsumeCall) (store : SubscriptionStore) : SubscriptionStore :=
  let rows := call.written.foldl SubscriptionStore.saveSubscription store
  match call.created with
  | some record => rows.insertRecord record
  | none => rows

end PreConsumeCall

namespace PreConsumeRace

section Moves
variable (race : PreConsumeRace) (id : Nat) (call : PreConsumeCall)

def setCall : PreConsumeRace :=
  { race with calls := Function.update race.calls id (some call) }

def lockRows (rows : List UserSubscription) : PreConsumeRace :=
  { race with rowLocks := fun row => if row ∈ rows.map UserSubscription.id then some id else race.rowLocks row }

def release : PreConsumeRace :=
  { race with
    rowLocks := fun row => if race.rowLocks row = some id then none else race.rowLocks row
    keyLock := if race.keyLock = some id then none else race.keyLock }

def finish (result : Except String SubscriptionPreConsumeResult) : PreConsumeRace :=
  (race.setCall id ⟨call.amount, call.now, .returned result, [], none⟩).release id

def fail (reason : String) : PreConsumeRace :=
  race.finish id call (.error reason)

def commit (result : SubscriptionPreConsumeResult) : PreConsumeRace :=
  { race with store := call.committed race.store }.finish id call (.ok result)

def tryCandidate (sub : UserSubscription)
    (rest : List UserSubscription) : PreConsumeRace :=
  if 0 < sub.amountTotal ∧ sub.amountTotal - sub.amountUsed < call.amount then race.setCall id (call.goTo (.plan rest))
  else race.setCall id (call.goTo (.create sub))

end Moves

section Statements
variable (env : SubscriptionEnv) (requestId : String) (userId : Int)
variable (race : PreConsumeRace) (id : Nat) (call : PreConsumeCall)

def findRecord (fault : Option String) : PreConsumeRace :=
  match fault with
  | some reason => race.fail id call reason
  | none =>
    match race.store.records.find? requestId with
    | some record =>
      if record.status = .refunded then race.fail id call "subscription pre-consume already refunded"
      else race.setCall id (call.goTo (.findSubscription record))
    | none => race.setCall id (call.goTo .lock)

def findSubscription (record : SubscriptionPreConsumeRecord)
    (fault : Option String) : PreConsumeRace :=
  match fault with
  | some reason => race.fail id call reason
  | none =>
    match race.store.subscriptions.find? record.userSubscriptionId with
    | none => race.fail id call "record not found"
    | some sub =>
        race.setCall id
        (call.goTo (.commit ⟨sub.id, record.preConsumed, sub.amountTotal, sub.amountUsed, sub.amountUsed⟩))

def lock (fault : Option String) : PreConsumeRace :=
  let subs := race.store.candidates userId call.now
  if fault ≠ none ∨ subs = [] then race.fail id call "no active subscription"
  else if ∃ sub ∈ subs, race.rowLocks sub.id ≠ none then race
  else (race.setCall id (call.goTo (.plan subs))).lockRows id subs

def findPlan (candidates : List UserSubscription)
    (fault : Option String) : PreConsumeRace :=
  match candidates with
  | [] => race.fail id call ("subscription quota insufficient, need=" ++ toString call.amount)
  | candidate :: rest =>
    match (getSubscriptionPlanById env candidate.planId (fun _ => fault) race.store).1 with
    | .ok plan => race.setCall id (call.goTo (.reset candidate plan rest))
    | .error (.error reason) => race.fail id call reason
    | .error .diverges => race

def maybeReset (candidate : UserSubscription)
    (plan : SubscriptionPlan) (rest : List UserSubscription) (fault : Option String) : PreConsumeRace :=
  match resetOutcome env candidate plan call.now with
  | none => race
  | some none => race.tryCandidate id call candidate rest
  | some (some row) =>
    match fault with
    | some reason => race.fail id call reason
    | none => race.tryCandidate id { call with written := call.written ++ [row] } row rest

def create (sub : UserSubscription) (fault : Option String) :
    PreConsumeRace :=
  match fault with
  | some reason => race.setCall id (call.goTo (.findDuplicate sub reason))
  | none =>
    if race.keyLock ≠ none then race
    else match race.store.records.find? requestId with
    | some _ => race.setCall id (call.goTo (.findDuplicate sub
        "UNIQUE constraint failed: subscription_pre_consume_records.request_id"))
    | none =>
      { race with keyLock := some id }.setCall id
        { call with stage := .save sub, created := some ⟨requestId, userId, sub.id, call.amount, .consumed⟩ }

def findDuplicate (sub : UserSubscription) (reason : String)
    (fault : Option String) : PreConsumeRace :=
  match fault, race.store.records.find? requestId with
  | none, some dup =>
    if dup.status = .refunded then race.fail id call "subscription pre-consume already refunded"
    else race.setCall id
      (call.goTo (.commit ⟨sub.id, dup.preConsumed, sub.amountTotal, sub.amountUsed, sub.amountUsed⟩))
  | _, _ => race.fail id call reason

def save (sub : UserSubscription) (fault : Option String) :
    PreConsumeRace :=
  match fault with
  | some reason => race.fail id call reason
  | none =>
    race.setCall id { call with
      stage := .commit ⟨sub.id, call.amount, sub.amountTotal, sub.amountUsed, sub.amountUsed + call.amount⟩
      written := call.written ++ [{ sub with amountUsed := sub.amountUsed + call.amount }] }

def advance (fault : Option String) : PreConsumeRace :=
  match call.stage with
  | .findRecord => race.findRecord requestId id call fault
  | .findSubscription record => race.findSubscription id call record fault
  | .lock => race.lock userId id call fault
  | .plan candidates => race.findPlan env id call candidates fault
  | .reset candidate plan rest => race.maybeReset env id call candidate plan rest fault
  | .create sub => race.create requestId userId id call sub fault
  | .findDuplicate sub reason => race.findDuplicate requestId id call sub reason fault
  | .save sub => race.save id call sub fault
  | .commit result =>
    match fault with
    | some reason => race.fail id call reason
    | none => race.commit id call result
  | .returned _ => race

def begin (amount now : Int) : PreConsumeRace :=
  race.setCall id ⟨amount, now,
    if userId ≤ 0 then .returned (.error "invalid userId")
    else if trimSpace requestId = "" then .returned (.error "requestId is empty")
    else if amount ≤ 0 then .returned (.error "amount must be > 0")
    else .findRecord, [], none⟩

def step (race : PreConsumeRace) : PreConsumeEvent → PreConsumeRace
  | .call id amount now =>
    match race.calls id with
    | none => race.begin requestId userId id amount now
    | some _ => race
  | .advance id fault =>
    match race.calls id with
    | none => race
    | some call => race.advance env requestId userId id call fault

end Statements

def start (store : SubscriptionStore) : PreConsumeRace := ⟨store, fun _ => none, fun _ => none, none⟩

end PreConsumeRace
end NewApi.Model
