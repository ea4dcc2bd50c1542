import NewApi.Library.Run
import NewApi.Library.Script
import NewApi.Model.SubscriptionOrder

/-!
# Purchases side by side

The three ways to a subscription of a plan, statement by statement. A plain read sees what has been
committed and what its own transaction wrote. A locking read and a write wait for the row, and hold
it until their transaction ends; the count and the insert of a subscription wait for nothing.
-/

namespace NewApi.Model
open Library Common

inductive PurchaseWrite where
  | deductQuota (userId quota : Int)
  | updateGroup (userId : Int) (group : String)
  | createSubscription (sub : UserSubscription)
  | createTopUp (topUp : TopUp)
  | saveTopUp (topUp : TopUp)
  | createOrder (order : SubscriptionOrder)
  | saveOrder (order : SubscriptionOrder)
deriving DecidableEq

inductive PurchaseStatement where
  | begin
  | findPlan (planId : Int)
  | lockOrder (tradeNo : String)
  | lockUser (userId : Int)
  | count (userId planId : Int)
  | findGroup (userId : Int)
  | findTopUp (tradeNo : String)
  | write (write : PurchaseWrite)
  | commit
  | rollback
deriving DecidableEq

abbrev PurchaseStatement.Answer : PurchaseStatement → Type
  | .findPlan _ => Option SubscriptionPlan
  | .lockOrder _ => Option SubscriptionOrder
  | .lockUser _ => Option Int
  | .count _ _ => Nat
  | .findGroup _ => String
  | .findTopUp _ => Option TopUp
  | _ => Unit

def PurchaseStatement.ends (statement : PurchaseStatement) : Prop := statement = .commit ∨ statement = .rollback

instance (statement : PurchaseStatement) : Decidable statement.ends := inferInstanceAs (Decidable (_ ∨ _))

inductive PurchaseRow where
  | user (id : Int)
  | order (tradeNo : String)
  | topUp (tradeNo : String)
deriving DecidableEq

structure PurchaseDb where
  store : OrderStore
  drafts : Nat → List PurchaseWrite
  locks : PurchaseRow → Option Nat

namespace PurchaseWrite

def apply (store : OrderStore) : PurchaseWrite → OrderStore
  | .deductQuota userId quota => store.updateUser userId (· - quota) id
  | .updateGroup userId group => store.updateUser userId id fun user => { user with group := group }
  | .createSubscription sub => store.setSubscriptions (store.subscriptions.insertSubscription sub)
  | .createTopUp topUp => { store with topUps := store.topUps.insert topUp }
  | .saveTopUp topUp => store.saveTopUp topUp
  | .createOrder order => { store with orders := store.orders.insert order }
  | .saveOrder order => store.saveOrder order

def row (store : OrderStore) : PurchaseWrite → Option PurchaseRow
  | .deductQuota userId _ | .updateGroup userId _ => (store.users userId).map fun _ => .user userId
  | .createSubscription _ => none
  | .createTopUp topUp | .saveTopUp topUp => some (.topUp topUp.tradeNo)
  | .createOrder order | .saveOrder order => some (.order order.tradeNo)

def conflict (store : OrderStore) : PurchaseWrite → Option String
  | .createTopUp topUp => (store.topUps.find? topUp.tradeNo).map fun _ => "UNIQUE constraint failed: top_ups.trade_no"
  | .createOrder order => (store.orders.find? order.tradeNo).map fun _ =>
      "UNIQUE constraint failed: subscription_orders.trade_no"
  | _ => none

end PurchaseWrite

namespace PurchaseDb

def start (store : OrderStore) : PurchaseDb := ⟨store, fun _ => [], fun _ => none⟩

variable (db : PurchaseDb) (id : Nat)

def view : OrderStore := (db.drafts id).foldl PurchaseWrite.apply db.store

def draft (write : PurchaseWrite) : PurchaseDb :=
  { db with drafts := Function.update db.drafts id (db.drafts id ++ [write]) }

def acquire : Option PurchaseRow → Option PurchaseDb
  | none => some db
  | some row =>
    match db.locks row with
    | none => some { db with locks := Function.update db.locks row (some id) }
    | some holder => if holder = id then some db else none

def close : PurchaseDb :=
  { db with
    drafts := Function.update db.drafts id []
    locks := fun row => if db.locks row = some id then none else db.locks row }

def answer : (statement : PurchaseStatement) → Option (Except String statement.Answer × PurchaseDb)
  | .begin => some (.ok (), db)
  | .findPlan planId => some (.ok ((db.view id).subscriptions.plans.find? planId), db)
  | .lockOrder tradeNo =>
    let found := (db.view id).orders.find? tradeNo
    (db.acquire id (found.map fun order => .order order.tradeNo)).map fun db => (.ok found, db)
  | .lockUser userId =>
    let found := ((db.view id).users userId).map fun _ => (db.view id).accounts.userQuota userId
    (db.acquire id (found.map fun _ => .user userId)).map fun db => (.ok found, db)
  | .count userId planId => some (.ok ((db.view id).subscriptions.purchases userId planId), db)
  | .findGroup userId => some (.ok ((((db.view id).users userId).map User.group).getD ""), db)
  | .findTopUp tradeNo => some (.ok ((db.view id).topUps.find? tradeNo), db)
  | .write write =>
    match write.conflict (db.view id) with
    | some reason => some (.error reason, db)
    | none => (db.acquire id (write.row (db.view id))).map fun db => (.ok (), db.draft id write)
  | .commit => some (.ok (), { db with store := db.view id }.close id)
  | .rollback => some (.ok (), db.close id)

def exec : Exec PurchaseDb PurchaseStatement PurchaseStatement.Answer String := fun id statement fault db =>
  match fault with
  | none => db.answer id statement
  | some reason => some (.error reason, if statement.ends then db.close id else db)

end PurchaseDb

abbrev PurchaseScript (α : Type) := Script PurchaseStatement PurchaseStatement.Answer String α

namespace Purchase
open Script (fail)

def query (statement : PurchaseStatement) : PurchaseScript statement.Answer := Script.statement statement

def write (write : PurchaseWrite) : PurchaseScript Unit := query (.write write)

def transaction (body : PurchaseScript Unit) : PurchaseScript Unit := do
  query .begin
  body.andThen fun
    | .ok () => query .commit
    | .error reason => (query .rollback).andThen fun _ => fail reason

def getSubscriptionPlanById (env : SubscriptionEnv) (id : Int) : PurchaseScript SubscriptionPlan :=
  if id ≤ 0 then fail "invalid plan id"
  else match env.planCache id with
  | some plan => pure plan
  | none => do
    let found ← query (.findPlan id)
    match found with
    | some plan => pure plan
    | none => fail "record not found"

def checkPurchases (userId : Int) (plan : SubscriptionPlan) : PurchaseScript Unit :=
  if 0 < plan.maxPurchasePerUser then do
    let count ← query (.count userId plan.id)
    if plan.maxPurchasePerUser ≤ count then fail "已达到该套餐购买上限" else pure ()
  else pure ()

def upgradeUserGroup (userId : Int) (upgradeGroup : String) : PurchaseScript String :=
  if upgradeGroup = "" then pure ""
  else do
    let currentGroup ← query (.findGroup userId)
    if currentGroup = upgradeGroup then pure ""
    else do
      write (.updateGroup userId upgradeGroup)
      pure currentGroup

def lockOrder (tradeNo : String) : PurchaseScript SubscriptionOrder := do
  let found ← (query (.lockOrder tradeNo)).attempt
  match found with
  | .ok (some order) => pure order
  | _ => fail "subscription order not found"

def upsertSubscriptionTopUpTx (order : SubscriptionOrder) (now : Int) : PurchaseScript Unit := do
  let found ← query (.findTopUp order.tradeNo)
  match found with
  | none => write (.createTopUp (shadowTopUp order now))
  | some topUp =>
    if topUp.paymentMethod ≠ "" ∧ topUp.paymentMethod ≠ order.paymentMethod then fail "payment method mismatch"
    else write (.saveTopUp { topUp with
      money := order.money
      paymentMethod := order.paymentMethod
      createTime := if topUp.createTime = 0 then order.createTime else topUp.createTime
      completeTime := now
      status := .success })

section Functions
variable (env : OrderEnv)

def createUserSubscriptionFromPlanTx (userId : Int) (plan : SubscriptionPlan) (source : SubscriptionSource)
    (dbNow : Int) : PurchaseScript Unit :=
  if plan.id = 0 then fail "invalid plan"
  else if userId ≤ 0 then fail "invalid user id"
  else do
    checkPurchases userId plan
    match calcPlanEndTime env.subscriptions.location dbNow plan with
    | .error reason => fail reason
    | .ok endUnix => do
      let prevGroup ← upgradeUserGroup userId (trimSpace plan.upgradeGroup)
      write (.createSubscription (planSubscription env userId plan source dbNow endUnix prevGroup))

def completeSubscriptionOrder (tradeNo providerPayload : String) (expectedPaymentProvider : PaymentProvider)
    (actualPaymentMethod : String) (now dbNow : Int) : PurchaseScript Unit :=
  if tradeNo = "" then fail "tradeNo is empty"
  else transaction do
    let order ← lockOrder tradeNo
    if expectedPaymentProvider ≠ .unset ∧ order.paymentProvider ≠ expectedPaymentProvider then
      fail "payment method mismatch"
    else if order.status = .success then pure ()
    else if order.status ≠ .pending then fail "subscription order status invalid"
    else do
      let plan ← getSubscriptionPlanById env.subscriptions order.planId
      createUserSubscriptionFromPlanTx env order.userId plan .order dbNow
      upsertSubscriptionTopUpTx order now
      write (.saveOrder (completedOrder order providerPayload actualPaymentMethod now))

def adminBindSubscription (userId planId dbNow : Int) : PurchaseScript String :=
  if userId ≤ 0 ∨ planId ≤ 0 then fail "invalid userId or planId"
  else do
    let plan ← getSubscriptionPlanById env.subscriptions planId
    transaction (createUserSubscriptionFromPlanTx env userId plan .admin dbNow)
    if trimSpace plan.upgradeGroup ≠ "" then pure ("用户分组将升级到 " ++ plan.upgradeGroup) else pure ""

def calcSubscriptionBalanceQuota (priceAmount : Rat) : Except String Int :=
  if priceAmount ≤ 0 then .ok 0
  else if env.quotaPerUnit ≤ 0 then .error "额度单位配置错误"
  else .ok (priceAmount * env.quotaPerUnit).ceil

def payFromBalance (userId requiredQuota : Int) : PurchaseScript Unit := do
  let found ← query (.lockUser userId)
  match found with
  | none => fail "record not found"
  | some quota =>
    if 0 < requiredQuota ∧ quota < requiredQuota then fail "余额不足"
    else if 0 < requiredQuota then write (.deductQuota userId requiredQuota)
    else pure ()

def balanceOrder (userId : Int) (plan : SubscriptionPlan) (tradeNo : String)
    (requiredQuota now : Int) : SubscriptionOrder where
  userId := userId
  planId := plan.id
  money := plan.priceAmount
  tradeNo := tradeNo
  paymentMethod := "balance"
  paymentProvider := .balance
  status := .success
  createTime := now
  completeTime := now
  providerPayload := "charged_quota=" ++ toString requiredQuota

def purchaseSubscriptionWithBalance (userId planId : Int) (tradeNo : String) (now dbNow : Int) : PurchaseScript Unit :=
  if userId ≤ 0 ∨ planId ≤ 0 then fail "invalid userId or planId"
  else transaction do
    let plan ← getSubscriptionPlanById env.subscriptions planId
    if plan.enabled = false then fail "套餐未启用"
    else if plan.priceAmount < 0 then fail "套餐价格不能为负数"
    else if plan.allowBalancePay = some false then fail "该套餐不允许使用余额兑换"
    else match calcSubscriptionBalanceQuota env plan.priceAmount with
    | .error reason => fail reason
    | .ok requiredQuota => do
      payFromBalance userId requiredQuota
      createUserSubscriptionFromPlanTx env userId plan .balance dbNow
      write (.createOrder (balanceOrder userId plan tradeNo requiredQuota now))

end Functions
end Purchase

inductive PurchaseCall where
  | completeOrder (tradeNo providerPayload : String) (expectedPaymentProvider : PaymentProvider)
      (actualPaymentMethod : String) (now dbNow : Int)
  | adminBind (userId planId dbNow : Int)
  | withBalance (userId planId : Int) (tradeNo : String) (now dbNow : Int)

def PurchaseCall.script (env : OrderEnv) : PurchaseCall → PurchaseScript Unit
  | .completeOrder tradeNo providerPayload expectedPaymentProvider actualPaymentMethod now dbNow =>
    Purchase.completeSubscriptionOrder env tradeNo providerPayload expectedPaymentProvider actualPaymentMethod now dbNow
  | .adminBind userId planId dbNow => do
    let _ ← Purchase.adminBindSubscription env userId planId dbNow
    pure ()
  | .withBalance userId planId tradeNo now dbNow => Purchase.purchaseSubscriptionWithBalance env
      userId planId tradeNo now dbNow

inductive PurchaseEvent where
  | call (id : Nat) (call : PurchaseCall)
  | advance (id : Nat) (fault : Option String)

abbrev PurchaseRace := Pool PurchaseDb PurchaseCall PurchaseStatement PurchaseStatement.Answer String Unit

namespace PurchaseRace

def start (store : OrderStore) : PurchaseRace := Pool.start (PurchaseDb.start store)

def step (env : OrderEnv) (race : PurchaseRace) : PurchaseEvent → PurchaseRace
  | .call id call => race.spawn id call (call.script env)
  | .advance id fault => race.advance PurchaseDb.exec id fault

end PurchaseRace
end NewApi.Model
