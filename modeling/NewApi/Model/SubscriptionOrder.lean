import NewApi.Model.TopUp

/-!
# Subscription orders

A completed order creates a subscription of its plan, and a top-up row of its trade number for the billing history.
-/

namespace NewApi.Model
open Library Common Db

def calcPlanEndTime (loc : Location) (start : Int) (plan : SubscriptionPlan) : Except String Int :=
  if plan.durationValue ≤ 0 ∧ plan.durationUnit ≠ "custom" then .error "duration_value must be > 0"
  else match plan.durationUnit with
  | "year" => .ok (loc.addDate64 start (12 * plan.durationValue))
  | "month" => .ok (loc.addDate64 start plan.durationValue)
  | "day" => .ok (addSeconds start (plan.durationValue * 24 * 3600))
  | "hour" => .ok (addSeconds start (plan.durationValue * 3600))
  | "custom" =>
    if plan.customSeconds ≤ 0 then .error "custom_seconds must be > 0"
    else .ok (addSeconds start plan.customSeconds)
  | unit => .error ("invalid duration_unit: " ++ unit)

namespace SubscriptionStore

def nextId (store : SubscriptionStore) : Int := (store.subscriptions.rows.map UserSubscription.id).foldl max 0 + 1

def purchases (store : SubscriptionStore) (userId planId : Int) : Nat :=
  (store.subscriptions.rows.filter fun sub => sub.userId = userId ∧ sub.planId = planId).length

def insertSubscription (store : SubscriptionStore) (sub : UserSubscription) : SubscriptionStore :=
  { store with subscriptions := store.subscriptions.insert { sub with id := store.nextId } }

end SubscriptionStore

def getUserGroupByIdTx (userId : Int) : OrderDb String :=
  if userId ≤ 0 then fail "invalid userId"
  else query .group fun store => ((store.users userId).map User.group).getD ""

def upgradeUserGroup (userId : Int) (upgradeGroup : String) : OrderDb String :=
  if upgradeGroup = "" then pure ""
  else do
    let currentGroup ← getUserGroupByIdTx userId
    if currentGroup = upgradeGroup then pure ""
    else do
      execute .upgrade fun store => store.updateUser userId id fun user => { user with group := upgradeGroup }
      pure currentGroup

def checkPurchases (userId : Int) (plan : SubscriptionPlan) : OrderDb Unit :=
  if 0 < plan.maxPurchasePerUser then do
    let count ← query .purchases fun store => store.subscriptions.purchases userId plan.id
    if plan.maxPurchasePerUser ≤ count then fail "已达到该套餐购买上限" else pure ()
  else pure ()

section Complete
variable (env : OrderEnv)

def planSubscription (userId : Int) (plan : SubscriptionPlan) (source : SubscriptionSource) (now endUnix : Int)
    (prevGroup : String) : UserSubscription :=
  let nextReset := calcNextResetTime env.subscriptions.location now plan endUnix
  { id := 0
    userId := userId
    planId := plan.id
    amountTotal := plan.totalAmount
    amountUsed := 0
    startTime := now
    endTime := endUnix
    status := .active
    lastResetTime := if 0 < nextReset then now else 0
    nextResetTime := nextReset
    allowWalletOverflow := plan.allowWalletOverflow.getD true
    source := source
    upgradeGroup := trimSpace plan.upgradeGroup
    prevUserGroup := prevGroup
    downgradeGroup := trimSpace plan.downgradeGroup }

def createUserSubscriptionFromPlanTx (userId : Int) (plan : SubscriptionPlan) (source : SubscriptionSource)
    (dbNow : Int) : OrderDb Unit :=
  if plan.id = 0 then fail "invalid plan"
  else if userId ≤ 0 then fail "invalid user id"
  else do
    checkPurchases userId plan
    match calcPlanEndTime env.subscriptions.location dbNow plan with
    | .error reason => fail reason
    | .ok endUnix =>
      let prevGroup ← upgradeUserGroup userId (trimSpace plan.upgradeGroup)
      let sub := planSubscription env userId plan source dbNow endUnix prevGroup
      execute .create fun store => store.setSubscriptions (store.subscriptions.insertSubscription sub)

def shadowTopUp (order : SubscriptionOrder) (now : Int) : TopUp where
  userId := order.userId
  amount := 0
  money := order.money
  tradeNo := order.tradeNo
  paymentMethod := order.paymentMethod
  paymentProvider := .unset
  createTime := order.createTime
  completeTime := now
  status := .success

def upsertSubscriptionTopUpTx (order : SubscriptionOrder) (now : Int) : OrderDb Unit := do
  let found ← query .findTopUp fun store => store.topUps.find? order.tradeNo
  match found with
  | none => execute .saveTopUp fun store => { store with topUps := store.topUps.insert (shadowTopUp order now) }
  | some topUp =>
    if topUp.paymentMethod ≠ "" ∧ topUp.paymentMethod ≠ order.paymentMethod then fail "payment method mismatch"
    else execute .saveTopUp fun store => store.saveTopUp { topUp with
      money := order.money
      paymentMethod := order.paymentMethod
      createTime := if topUp.createTime = 0 then order.createTime else topUp.createTime
      completeTime := now
      status := .success }

def lockOrder (tradeNo : String) : OrderDb SubscriptionOrder := do
  let found ← attempt (query .find fun store => store.orders.find? tradeNo)
  match found with
  | .ok (some order) => pure order
  | _ => fail "subscription order not found"

def completedOrder (order : SubscriptionOrder) (providerPayload actualPaymentMethod : String) (now : Int) :
    SubscriptionOrder :=
  { order with
    status := .success
    completeTime := now
    providerPayload := if providerPayload = "" then order.providerPayload else providerPayload
    paymentMethod := if actualPaymentMethod = "" then order.paymentMethod else actualPaymentMethod }

def completeSubscriptionOrder (tradeNo providerPayload : String) (expectedPaymentProvider : PaymentProvider)
    (actualPaymentMethod : String) (now dbNow : Int) : OrderDb Unit :=
  if tradeNo = "" then fail "tradeNo is empty"
  else transaction .start .commit do
    let order ← lockOrder tradeNo
    if expectedPaymentProvider ≠ .unset ∧ order.paymentProvider ≠ expectedPaymentProvider then
      fail "payment method mismatch"
    else if order.status = .success then pure ()
    else if order.status ≠ .pending then fail "subscription order status invalid"
    else do
      let plan ← zoom OrderStore.subscriptions OrderStore.setSubscriptions
        ((getSubscriptionPlanById env.subscriptions order.planId).within fun _ => OrderStatement.plan)
      createUserSubscriptionFromPlanTx env order.userId plan .order dbNow
      upsertSubscriptionTopUpTx order now
      execute .save fun store => store.saveOrder (completedOrder order providerPayload actualPaymentMethod now)

end Complete

def expireSubscriptionOrder (tradeNo : String) (expectedPaymentProvider : PaymentProvider) (now : Int) : OrderDb Unit :=
  if tradeNo = "" then fail "tradeNo is empty"
  else transaction .start .commit do
    let order ← lockOrder tradeNo
    if expectedPaymentProvider ≠ .unset ∧ order.paymentProvider ≠ expectedPaymentProvider then
      fail "payment method mismatch"
    else if order.status ≠ .pending then pure ()
    else execute .save fun store => store.saveOrder { order with status := .expired, completeTime := now }

end NewApi.Model
