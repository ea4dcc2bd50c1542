import NewApi.Library.Run
import NewApi.Model.SubscriptionReset

/-!
# Histories of the subscription store

The calls of all nodes in the order their transactions commit, under one clock that never goes back.
-/

namespace NewApi.Model
open Library

structure SubscriptionState where
  store : OrderStore
  now : Int

inductive SubscriptionEvent where
  | tick (seconds : Nat)
  | purchase (userId : Int) (plan : SubscriptionPlan) (source : SubscriptionSource)
      (faults : Faults OrderStatement String)
  | preConsume (requestId : String) (userId amount : Int) (faults : Faults PreConsumeStatement String)
  | postConsume (id delta : Int) (faults : Faults DeltaStatement String)
  | refund (requestId : String) (faults : Faults RefundStatement String)
  | resetDue (limit : Int) (faults : Faults ResetDueStatement String)
  | adminResetUser (userId planId : Int) (advanceResetTime : Bool) (faults : Faults AdminResetStatement String)
  | adminResetPlan (planId : Int) (advanceResetTime : Bool) (faults : Faults AdminResetStatement String)
  | expire (order : MapOrder) (limit : Int) (faults : Faults ExpireStatement String)
  | invalidate (id : Int) (faults : Faults EndStatement String)
  | delete (id : Int) (faults : Faults EndStatement String)

def purchaseTx (env : OrderEnv) (userId : Int) (plan : SubscriptionPlan) (source : SubscriptionSource) (now : Int) :
    OrderDb Unit :=
  Db.transaction .start .commit (createUserSubscriptionFromPlanTx env userId plan source now)

namespace SubscriptionState

def onSubscriptions {κ α : Type} (state : SubscriptionState) (body : SubscriptionDb κ α) (faults : Faults κ String) :
    SubscriptionState :=
  { state with store := state.store.setSubscriptions (body faults state.store.subscriptions).2 }

def onStore {κ α : Type} (state : SubscriptionState) (body : Db κ String OrderStore α) (faults : Faults κ String) :
    SubscriptionState :=
  { state with store := (body faults state.store).2 }

def step (env : OrderEnv) (state : SubscriptionState) : SubscriptionEvent → SubscriptionState
  | .tick seconds => { state with now := state.now + seconds }
  | .purchase userId plan source faults => state.onStore (purchaseTx env userId plan source state.now) faults
  | .preConsume requestId userId amount faults =>
    state.onSubscriptions (preConsumeUserSubscription env.subscriptions requestId userId amount state.now) faults
  | .postConsume id delta faults => state.onSubscriptions (postConsumeUserSubscriptionDelta id delta) faults
  | .refund requestId faults => state.onSubscriptions (refundSubscriptionPreConsume requestId) faults
  | .resetDue limit faults => state.onSubscriptions (resetDueSubscriptions env.subscriptions limit state.now) faults
  | .adminResetUser userId planId advanceResetTime faults =>
    state.onSubscriptions
      (adminResetUserSubscriptionsByPlan env.subscriptions userId planId advanceResetTime state.now) faults
  | .adminResetPlan planId advanceResetTime faults =>
    state.onSubscriptions (adminResetPlanSubscriptions env.subscriptions planId advanceResetTime state.now) faults
  | .expire order limit faults => state.onStore (expireDueSubscriptions order limit state.now) faults
  | .invalidate id faults => state.onStore (adminInvalidateUserSubscription id state.now) faults
  | .delete id faults => state.onStore (adminDeleteUserSubscription id state.now) faults

def group (state : SubscriptionState) (userId : Int) : Option String := (state.store.users userId).map User.group

def row (state : SubscriptionState) (id : Int) : Option UserSubscription :=
  state.store.subscriptions.subscriptions.find? id

end SubscriptionState
end NewApi.Model
