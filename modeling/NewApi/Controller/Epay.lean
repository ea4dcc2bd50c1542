import NewApi.Library.Run
import NewApi.Model.TopUp

/-!
# Epay notifications

A verified notification takes the lock of its order, reads it, saves it as successful and adds its
quota to the user, each in a statement of its own. The locks are in the memory of a node; the nodes
share the database. An administrator's completion takes the same lock and runs in one transaction.
-/

namespace NewApi.Controller
open Library Common Model

inductive EpayStage where
  | waiting
  | locked
  | saving (topUp : TopUp)
  | crediting (topUp : TopUp)
  | finished
deriving DecidableEq

structure EpayRequest where
  node : Nat
  (tradeNo callbackType : String)
  stage : EpayStage
deriving DecidableEq

structure EpayState where
  store : OrderStore
  requests : Nat → Option EpayRequest
  orderLocks : Nat → String → Option Nat

inductive EpayEvent where
  | notify (id node : Nat) (tradeNo callbackType : String)
  | advance (id : Nat) (fault : Bool)
  | adminComplete (node : Nat) (tradeNo : String) (now : Int) (faults : Faults OrderStatement String)
  | rest (accounts : Accounts) (users : Int → Option User) (subscriptions : SubscriptionStore)

def epayQuota (env : OrderEnv) (topUp : TopUp) : Int := intPart (topUp.amount * env.quotaPerUnit)

namespace EpayState

variable (state : EpayState) (id : Nat) (request : EpayRequest)

def setRequest : EpayState :=
  { state with requests := Function.update state.requests id (some request) }

def setLock (state : EpayState) (node : Nat) (tradeNo : String) (holder : Option Nat) : EpayState :=
  { state with orderLocks := Function.update state.orderLocks node (Function.update (state.orderLocks node) tradeNo holder) }

def finish : EpayState :=
  (state.setRequest id { request with stage := .finished }).setLock request.node request.tradeNo none

def findTopUp (fault : Bool) : EpayState :=
  match if fault then none else state.store.topUps.find? request.tradeNo with
  | none => state.finish id request
  | some topUp =>
    if topUp.paymentProvider ≠ .epay then state.finish id request
    else if topUp.status ≠ .pending then state.finish id request
    else state.setRequest id
      { request with stage := .saving { topUp with paymentMethod := request.callbackType } }

def increaseUserQuota (state : EpayState) (userId quota : Int) : EpayState :=
  { state with store := state.store.updateUser userId (· + quota) fun user => user }

def advance (env : OrderEnv) (state : EpayState) (id : Nat) (request : EpayRequest) (fault : Bool) : EpayState :=
  match request.stage with
  | .waiting =>
    if state.orderLocks request.node request.tradeNo = none then
      (state.setRequest id { request with stage := .locked }).setLock request.node request.tradeNo (some id)
    else state
  | .locked => state.findTopUp id request fault
  | .saving topUp =>
    if fault then state.finish id request
    else
      let saved := { topUp with status := .success }
      { state with store := state.store.saveTopUp saved }.setRequest id { request with stage := .crediting saved }
  | .crediting topUp =>
    if fault ∨ epayQuota env topUp < 0 then state.finish id request
    else
      (state.increaseUserQuota topUp.userId (epayQuota env topUp)).finish id request
  | .finished => state

def step (env : OrderEnv) (state : EpayState) : EpayEvent → EpayState
  | .notify id node tradeNo callbackType =>
    match state.requests id with
    | none => state.setRequest id ⟨node, tradeNo, callbackType, .waiting⟩
    | some _ => state
  | .advance id fault =>
    match state.requests id with
    | none => state
    | some request => state.advance env id request fault
  | .adminComplete node tradeNo now faults =>
    if state.orderLocks node tradeNo = none then
      { state with store := (manualCompleteTopUp env tradeNo now faults state.store).2 }
    else state
  | .rest accounts users subscriptions =>
    { state with store := { state.store with accounts := accounts, users := users, subscriptions := subscriptions } }

def start (store : OrderStore) : EpayState := ⟨store, fun _ => none, fun _ _ => none⟩

def status (state : EpayState) (tradeNo : String) : Option TopUpStatus :=
  (state.store.topUps.find? tradeNo).map TopUp.status

end EpayState
end NewApi.Controller
