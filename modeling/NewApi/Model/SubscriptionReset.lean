import NewApi.Model.SubscriptionExpiry

/-!
# Quota resets

Rows whose reset time has passed are reset in batches. An administrator resets the rows of a plan at
once, and may start their period anew.
-/

namespace NewApi.Model
open Library Common

inductive ResetDueStatement where
  | find
  | plan (subscription : Int)
  | start (subscription : Int)
  | lock (subscription : Int)
  | save (subscription : Int)
  | commit (subscription : Int)

namespace SubscriptionStore

def ResetDue (now : Int) (sub : UserSubscription) : Prop := 0 < sub.nextResetTime ∧ sub.nextResetTime ≤ now

instance (now : Int) : DecidablePred (ResetDue now) := fun _ => inferInstanceAs (Decidable (_ ∧ _))

def resetsBefore (a b : UserSubscription) : Prop := a.nextResetTime ≤ b.nextResetTime

instance : DecidableRel resetsBefore := fun _ _ => inferInstanceAs (Decidable (_ ≤ _))

def resetDue (store : SubscriptionStore) (now : Int) : List UserSubscription :=
  store.subscriptions.rows.filter fun sub => ResetDue now sub ∧ sub.status = .active

def resetBatch (store : SubscriptionStore) (now limit : Int) : List UserSubscription :=
  ((store.resetDue now).insertionSort resetsBefore).take (batchLimit limit)

end SubscriptionStore

section Reset
variable (env : SubscriptionEnv)

def resetDueRow (now : Int) (sub : UserSubscription) : SubscriptionDb ResetDueStatement Nat := do
  let found ← Db.attempt ((getSubscriptionPlanById env sub.planId).within fun _ => ResetDueStatement.plan sub.id)
  match found with
  | .error _ => pure 0
  | .ok plan => Db.transaction (.start sub.id) (.commit sub.id) do
      let locked ← Db.attempt (Db.query (.lock sub.id) fun store =>
        (store.subscriptions.find? sub.id).filter fun row => SubscriptionStore.ResetDue now row)
      match locked with
      | .ok (some row) => do
        let _ ← (maybeResetUserSubscriptionWithPlanTx env row plan now).within fun _ => ResetDueStatement.save sub.id
        pure 1
      | _ => pure 0

def resetDueRows (now : Int) : List UserSubscription → SubscriptionDb ResetDueStatement Nat
  | [] => pure 0
  | sub :: rest => do
    let count ← resetDueRow env now sub
    let others ← resetDueRows now rest
    pure (count + others)

def resetDueSubscriptions (limit now : Int) : SubscriptionDb ResetDueStatement Nat := do
  let subs ← Db.query .find fun store => store.resetBatch now limit
  resetDueRows env now subs

inductive AdminResetStatement where
  | start
  | plan
  | lock
  | save (subscription : Int)
  | commit

structure SubscriptionResetResult where
  planId : Int
  (matchedCount resetCount userCount : Nat)
  advanceResetTime : Bool
  planTitle : String
  affectedUserIds : List Int

def adminResetRow (sub : UserSubscription) (plan : SubscriptionPlan) (now : Int) (advanceResetTime : Bool) :
    UserSubscription :=
  if advanceResetTime then
    let nextReset := calcNextResetTime env.location now plan sub.endTime
    { sub with amountUsed := 0, nextResetTime := nextReset, lastResetTime := if 0 < nextReset then now else 0 }
  else { sub with amountUsed := 0 }

def resetUserSubscriptionTx (plan : SubscriptionPlan) (now : Int) (advanceResetTime : Bool) (sub : UserSubscription) :
    SubscriptionDb AdminResetStatement Unit :=
  saveRow (.save sub.id) (adminResetRow env sub plan now advanceResetTime)

def resetUserSubscriptionsTx (plan : SubscriptionPlan) (now : Int) (advanceResetTime : Bool) :
    List UserSubscription → SubscriptionDb AdminResetStatement Unit
  | [] => pure ()
  | sub :: rest => do
    resetUserSubscriptionTx env plan now advanceResetTime sub
    resetUserSubscriptionsTx plan now advanceResetTime rest

def firstSeen : List Int → List Int
  | [] => []
  | userId :: rest => userId :: (firstSeen rest).filter fun other => other ≠ userId

def buildSubscriptionResetResult (plan : SubscriptionPlan) (subs : List UserSubscription) (advanceResetTime : Bool) :
    SubscriptionResetResult :=
  let userIds := firstSeen (subs.map UserSubscription.userId)
  { planId := plan.id
    matchedCount := subs.length
    resetCount := subs.length
    userCount := userIds.length
    advanceResetTime := advanceResetTime
    planTitle := plan.title
    affectedUserIds := userIds }

def adminResetUserSubscriptionsByPlanTx (userId : Int) (plan : SubscriptionPlan) (now : Int) (advanceResetTime : Bool) :
    SubscriptionDb AdminResetStatement SubscriptionResetResult := do
  let subs ← Db.query .lock fun store => (store.candidates userId now).filter fun sub => sub.planId = plan.id
  if subs = [] then Db.fail "该用户没有有效的此套餐订阅"
  else do
    resetUserSubscriptionsTx env plan now advanceResetTime subs
    pure (buildSubscriptionResetResult plan subs advanceResetTime)

def userBefore (a b : UserSubscription) : Prop :=
  a.userId < b.userId ∨ (a.userId = b.userId ∧ SubscriptionStore.endsBefore a b)

instance : DecidableRel userBefore := fun _ _ => inferInstanceAs (Decidable (_ ∨ _))

def planSubscriptions (store : SubscriptionStore) (planId now : Int) : List UserSubscription :=
  (store.subscriptions.rows.filter fun sub =>
    sub.planId = planId ∧ sub.status = .active ∧ now < sub.endTime).insertionSort userBefore

def adminResetPlanSubscriptionsTx (plan : SubscriptionPlan) (now : Int) (advanceResetTime : Bool) :
    SubscriptionDb AdminResetStatement SubscriptionResetResult := do
  let subs ← Db.query .lock fun store => planSubscriptions store plan.id now
  resetUserSubscriptionsTx env plan now advanceResetTime subs
  pure (buildSubscriptionResetResult plan subs advanceResetTime)

def adminResetUserSubscriptionsByPlan (userId planId : Int) (advanceResetTime : Bool) (now : Int) :
    SubscriptionDb AdminResetStatement SubscriptionResetResult :=
  if userId ≤ 0 ∨ planId ≤ 0 then Db.fail "invalid userId or planId"
  else Db.transaction .start .commit do
    let plan ← (getSubscriptionPlanById env planId).within fun _ => AdminResetStatement.plan
    adminResetUserSubscriptionsByPlanTx env userId plan now advanceResetTime

def adminResetPlanSubscriptions (planId : Int) (advanceResetTime : Bool) (now : Int) :
    SubscriptionDb AdminResetStatement SubscriptionResetResult :=
  if planId ≤ 0 then Db.fail "invalid planId"
  else Db.transaction .start .commit do
    let plan ← (getSubscriptionPlanById env planId).within fun _ => AdminResetStatement.plan
    adminResetPlanSubscriptionsTx env plan now advanceResetTime

end Reset
end NewApi.Model
