import NewApi.Common.Float64
import NewApi.Common.QuotaMath
import NewApi.Model.Accounts
import NewApi.Model.Subscription

/-!
# Top-up orders

An order is completed by the gateway it was placed with, or by an administrator, in one transaction
that locks its row. `money` is the float's shortest decimal; logs are left out.
-/

namespace NewApi.Model
open Library Common Db

inductive TopUpStatus where
  | pending | success | failed | expired
deriving DecidableEq

inductive PaymentProvider where
  | unset | epay | stripe | creem | waffo | waffoPancake | balance
deriving DecidableEq

structure TopUp where
  (userId amount : Int)
  money : Rat
  (tradeNo paymentMethod : String)
  paymentProvider : PaymentProvider
  (createTime completeTime : Int)
  status : TopUpStatus
deriving DecidableEq

structure SubscriptionOrder where
  (userId planId : Int)
  money : Rat
  (tradeNo paymentMethod : String)
  paymentProvider : PaymentProvider
  status : TopUpStatus
  (createTime completeTime : Int)
  providerPayload : String
deriving DecidableEq

structure User where
  (email stripeCustomer group : String)

structure OrderStore where
  accounts : Accounts
  users : Int → Option User
  subscriptions : SubscriptionStore
  topUps : Table TopUp.tradeNo
  orders : Table SubscriptionOrder.tradeNo

structure FloatColumn where
  store : Rat → Int
  exact : ∀ value : Int, store value = value
  mono : ∀ {a b : Rat}, a ≤ b → store a ≤ store b

structure OrderEnv where
  quotaPerUnit : Rat
  column : FloatColumn
  subscriptions : SubscriptionEnv

inductive OrderStatement where
  | start
  | find
  | plan
  | purchases
  | group
  | upgrade
  | create
  | findTopUp
  | saveTopUp
  | save
  | user
  | credit
  | commit

abbrev OrderDb (α : Type) := Db OrderStatement String OrderStore α

namespace OrderStore

def updateUser (store : OrderStore) (id : Int) (quota : Int → Int) (columns : User → User) : OrderStore :=
  match store.users id with
  | none => store
  | some user =>
    { store with
      accounts := { store.accounts with
        userQuota := Function.update store.accounts.userQuota id (quota (store.accounts.userQuota id)) }
      users := Function.update store.users id (some (columns user)) }

def saveTopUp (store : OrderStore) (topUp : TopUp) : OrderStore := { store with topUps := store.topUps.save topUp }

def setSubscriptions (store : OrderStore) (subscriptions : SubscriptionStore) : OrderStore :=
  { store with subscriptions := subscriptions }

def saveOrder (store : OrderStore) (order : SubscriptionOrder) : OrderStore :=
  { store with orders := store.orders.save order }

end OrderStore

def lockTopUp (tradeNo reason : String) : OrderDb TopUp := do
  let found ← attempt (query .find fun store => store.topUps.find? tradeNo)
  match found with
  | .ok (some topUp) => pure topUp
  | _ => fail reason

def payTopUp (topUp : TopUp) (now : Int) (quota : Int → Int) (columns : User → User) : OrderDb Unit := do
  execute .save fun store => store.saveTopUp { topUp with completeTime := now, status := .success }
  execute .credit fun store => store.updateUser topUp.userId quota columns

def concealError (body : OrderDb Unit) : OrderDb Unit := do
  let outcome ← attempt body
  match outcome with
  | .ok () => pure ()
  | .error _ => fail "充值失败，请稍后重试"

def updatePendingTopUpStatus (tradeNo : String) (expectedPaymentProvider : PaymentProvider)
    (targetStatus : TopUpStatus) : OrderDb Unit :=
  if tradeNo = "" then fail "未提供支付单号"
  else transaction .start .commit do
    let topUp ← lockTopUp tradeNo "topup not found"
    if expectedPaymentProvider ≠ .unset ∧ topUp.paymentProvider ≠ expectedPaymentProvider then
      fail "payment method mismatch"
    else if topUp.status ≠ .pending then fail "topup status invalid"
    else execute .save fun store => store.saveTopUp { topUp with status := targetStatus }

section Recharge
variable (env : OrderEnv)

def stripeQuota (topUp : TopUp) : Rat := float64Mul topUp.money env.quotaPerUnit

def recharge (referenceId customerId : String) (now : Int) : OrderDb Unit :=
  if referenceId = "" then fail "未提供支付单号"
  else concealError <| transaction .start .commit do
    let topUp ← lockTopUp referenceId "充值订单不存在"
    if topUp.paymentProvider ≠ .stripe then fail "payment method mismatch"
    else if topUp.status ≠ .pending then fail "充值订单状态错误"
    else
      payTopUp topUp now (fun quota => env.column.store (quota + stripeQuota env topUp))
        (fun user => { user with stripeCustomer := customerId })

def creemColumns (userId : Int) (customerEmail : String) : OrderDb (User → User) :=
  if customerEmail = "" then pure id
  else do
    let found ← query .user fun store => store.users userId
    match found with
    | none => fail "record not found"
    | some user => pure (if user.email = "" then fun user => { user with email := customerEmail } else id)

def rechargeCreem (referenceId customerEmail : String) (now : Int) : OrderDb Unit :=
  if referenceId = "" then fail "未提供支付单号"
  else concealError <| transaction .start .commit do
    let topUp ← lockTopUp referenceId "充值订单不存在"
    if topUp.paymentProvider ≠ .creem then fail "payment method mismatch"
    else if topUp.status ≠ .pending then fail "充值订单状态错误"
    else do
      execute .save fun store => store.saveTopUp { topUp with completeTime := now, status := .success }
      let columns ← creemColumns topUp.userId customerEmail
      execute .credit fun store => store.updateUser topUp.userId (· + topUp.amount) columns

def rechargeByAmount (provider : PaymentProvider) (tradeNo : String) (now : Int) : OrderDb Unit :=
  if tradeNo = "" then fail "未提供支付单号"
  else concealError <| transaction .start .commit do
    let topUp ← lockTopUp tradeNo "充值订单不存在"
    if topUp.paymentProvider ≠ provider then fail "payment method mismatch"
    else if topUp.status = .success then pure ()
    else if topUp.status ≠ .pending then fail "充值订单状态错误"
    else
      let quotaToAdd := intPart (topUp.amount * env.quotaPerUnit)
      if quotaToAdd ≤ 0 then fail "无效的充值额度"
      else payTopUp topUp now (· + quotaToAdd) id

def rechargeWaffo (tradeNo : String) (now : Int) : OrderDb Unit := rechargeByAmount env .waffo tradeNo now

def rechargeWaffoPancake (tradeNo : String) (now : Int) : OrderDb Unit :=
  rechargeByAmount env .waffoPancake tradeNo now

def manualQuota (topUp : TopUp) : Int :=
  if topUp.paymentProvider = .stripe then intPart (topUp.money * env.quotaPerUnit)
  else intPart (topUp.amount * env.quotaPerUnit)

def manualCompleteTopUp (tradeNo : String) (now : Int) : OrderDb Unit :=
  if tradeNo = "" then fail "未提供订单号"
  else transaction .start .commit do
    let topUp ← lockTopUp tradeNo "充值订单不存在"
    if topUp.status = .success then pure ()
    else if topUp.status ≠ .pending then fail "订单状态不是待支付，无法补单"
    else
      let quotaToAdd := manualQuota env topUp
      if quotaToAdd ≤ 0 then fail "无效的充值额度"
      else payTopUp topUp now (· + quotaToAdd) id

end Recharge
end NewApi.Model
