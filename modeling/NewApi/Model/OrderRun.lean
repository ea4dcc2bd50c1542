import NewApi.Library.Run
import NewApi.Model.SubscriptionOrder

/-!
# Histories of orders

The calls of all nodes in the order their transactions commit: each locks the row of its order. Between them orders are
created, and the rest of the system changes quotas, users and subscriptions as it likes.
-/

namespace NewApi.Model
open Library

inductive OrderCall where
  | recharge (referenceId customerId : String)
  | rechargeCreem (referenceId customerEmail : String)
  | rechargeWaffo (tradeNo : String)
  | rechargeWaffoPancake (tradeNo : String)
  | manualCompleteTopUp (tradeNo : String)
  | updatePendingTopUpStatus (tradeNo : String) (expectedPaymentProvider : PaymentProvider) (targetStatus : TopUpStatus)
  | completeSubscriptionOrder (tradeNo providerPayload : String) (expectedPaymentProvider : PaymentProvider)
      (actualPaymentMethod : String)
  | expireSubscriptionOrder (tradeNo : String) (expectedPaymentProvider : PaymentProvider)

inductive OrderEvent where
  | call (call : OrderCall) (now dbNow : Int) (faults : Faults OrderStatement String)
  | createTopUp (topUp : TopUp)
  | createOrder (order : SubscriptionOrder)
  | rest (accounts : Accounts) (users : Int → Option User) (subscriptions : SubscriptionStore)

namespace OrderCall

def tradeNo : OrderCall → String
  | .recharge referenceId _ => referenceId
  | .rechargeCreem referenceId _ => referenceId
  | .rechargeWaffo tradeNo => tradeNo
  | .rechargeWaffoPancake tradeNo => tradeNo
  | .manualCompleteTopUp tradeNo => tradeNo
  | .updatePendingTopUpStatus tradeNo _ _ => tradeNo
  | .completeSubscriptionOrder tradeNo _ _ _ => tradeNo
  | .expireSubscriptionOrder tradeNo _ => tradeNo

def gateway : OrderCall → Option PaymentProvider
  | .recharge _ _ => some .stripe
  | .rechargeCreem _ _ => some .creem
  | .rechargeWaffo _ => some .waffo
  | .rechargeWaffoPancake _ => some .waffoPancake
  | .manualCompleteTopUp _ => none
  | .updatePendingTopUpStatus _ expectedPaymentProvider _ => some expectedPaymentProvider
  | .completeSubscriptionOrder _ _ expectedPaymentProvider _ => some expectedPaymentProvider
  | .expireSubscriptionOrder _ expectedPaymentProvider => some expectedPaymentProvider

def FromCallSite : OrderCall → Prop
  | .updatePendingTopUpStatus _ expectedPaymentProvider targetStatus =>
    expectedPaymentProvider ≠ .unset ∧ (targetStatus = .failed ∨ targetStatus = .expired)
  | .completeSubscriptionOrder _ _ expectedPaymentProvider _ => expectedPaymentProvider ≠ .unset
  | .expireSubscriptionOrder _ expectedPaymentProvider => expectedPaymentProvider ≠ .unset
  | _ => True

end OrderCall

def performCall (env : OrderEnv) (call : OrderCall) (now dbNow : Int) : OrderDb Unit :=
  match call with
  | .recharge referenceId customerId => recharge env referenceId customerId now
  | .rechargeCreem referenceId customerEmail => rechargeCreem referenceId customerEmail now
  | .rechargeWaffo tradeNo => rechargeWaffo env tradeNo now
  | .rechargeWaffoPancake tradeNo => rechargeWaffoPancake env tradeNo now
  | .manualCompleteTopUp tradeNo => manualCompleteTopUp env tradeNo now
  | .updatePendingTopUpStatus tradeNo expectedPaymentProvider targetStatus =>
    updatePendingTopUpStatus tradeNo expectedPaymentProvider targetStatus
  | .completeSubscriptionOrder tradeNo providerPayload expectedPaymentProvider actualPaymentMethod =>
    completeSubscriptionOrder env tradeNo providerPayload expectedPaymentProvider actualPaymentMethod now dbNow
  | .expireSubscriptionOrder tradeNo expectedPaymentProvider =>
      expireSubscriptionOrder tradeNo expectedPaymentProvider now

namespace OrderStore

def step (env : OrderEnv) (store : OrderStore) : OrderEvent → OrderStore
  | .call call now dbNow faults => (performCall env call now dbNow faults store).2
  | .createTopUp topUp => { store with topUps := store.topUps.insert topUp }
  | .createOrder order => { store with orders := store.orders.insert order }
  | .rest accounts users subscriptions =>
    { store with accounts := accounts, users := users, subscriptions := subscriptions }

def status (store : OrderStore) (tradeNo : String) : Option TopUpStatus :=
  match store.orders.find? tradeNo with
  | some order => some order.status
  | none => (store.topUps.find? tradeNo).map TopUp.status

end OrderStore
end NewApi.Model
