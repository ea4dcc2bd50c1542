import NewApi.Library.Db
import NewApi.Library.Table
import NewApi.Common.Text
import NewApi.Common.Calendar

/-!
# The subscription store

Plans, user subscriptions and the pre-consume records that make charging idempotent. `now` is what `GetDBTimestamp` or
`GetTimestamp` returned.
-/

namespace NewApi.Model
open Library Common Db

inductive SubscriptionStatus where
  | active | expired | cancelled
deriving DecidableEq

inductive RecordStatus where
  | consumed | refunded
deriving DecidableEq

inductive ResetPeriod where
  | never | daily | weekly | monthly | custom
deriving DecidableEq

inductive SubscriptionSource where
  | order | admin | balance
deriving DecidableEq

structure SubscriptionPlan where
  id : Int
  title : String
  priceAmount : Rat := 0
  durationUnit : String := "month"
  durationValue : Int := 1
  customSeconds : Int := 0
  enabled : Bool := true
  (allowBalancePay allowWalletOverflow : Option Bool := none)
  maxPurchasePerUser : Int := 0
  (upgradeGroup downgradeGroup : String := "")
  totalAmount : Int := 0
  quotaResetPeriod : String := "never"
  quotaResetCustomSeconds : Int := 0
deriving DecidableEq

structure UserSubscription where
  (id userId planId amountTotal amountUsed startTime endTime : Int)
  status : SubscriptionStatus
  (lastResetTime nextResetTime : Int)
  allowWalletOverflow : Bool
  source : SubscriptionSource := .order
  (upgradeGroup prevUserGroup downgradeGroup : String := "")
deriving DecidableEq

structure SubscriptionPreConsumeRecord where
  requestId : String
  (userId userSubscriptionId preConsumed : Int)
  status : RecordStatus
deriving DecidableEq

structure SubscriptionPreConsumeResult where
  (userSubscriptionId preConsumed amountTotal amountUsedBefore amountUsedAfter : Int)
deriving DecidableEq

structure SubscriptionPlanInfo where
  planId : Int
  planTitle : String

structure SubscriptionStore where
  plans : Table SubscriptionPlan.id
  subscriptions : Table UserSubscription.id
  records : Table SubscriptionPreConsumeRecord.requestId

/-- The local time zone, the plan caches, and a bound beyond which the catch-up loop of a reset counts as never ending.
-/
structure SubscriptionEnv where
  location : Location
  planCache : Int → Option SubscriptionPlan
  planInfoCache : Int → Option SubscriptionPlanInfo
  catchUpBound : Nat

def normalizeResetPeriod (period : String) : ResetPeriod :=
  match trimSpace period with
  | "daily" => .daily
  | "weekly" => .weekly
  | "monthly" => .monthly
  | "custom" => .custom
  | _ => .never

def startOfDay (loc : Location) (base : Int) : Int := loc.date (loc.civil base) 0

def nextReset (loc : Location) (base : Int) (plan : SubscriptionPlan) : Option Int :=
  match normalizeResetPeriod plan.quotaResetPeriod with
  | .never => none
  | .daily => some (loc.addDate (startOfDay loc base) 0 1)
  | .weekly =>
    let weekday := if loc.weekday base = 0 then 7 else loc.weekday base
    some (loc.addDate (startOfDay loc base) 0 (8 - weekday))
  | .monthly =>
    let firstOfMonth := loc.date { loc.civil base with day := 1 } 0
    some (loc.addDate firstOfMonth 1 0)
  | .custom =>
    if plan.quotaResetCustomSeconds ≤ 0 then none
    else some (addSeconds base plan.quotaResetCustomSeconds)

def calcNextResetTime (loc : Location) (base : Int) (plan : SubscriptionPlan) (endUnix : Int) : Int :=
  match nextReset loc base plan with
  | none => 0
  | some next => if 0 < endUnix ∧ endUnix < next then 0 else next

/-- The catch-up loop: the last boundary passed and the next one, or `none` if it does not end within the bound. -/
def catchUp (loc : Location) (plan : SubscriptionPlan) (endTime now : Int) :
    Nat → Int → Int → Option (Int × Int)
  | 0, base, next => if 0 < next ∧ next ≤ now then none else some (base, next)
  | fuel + 1, base, next =>
    if 0 < next ∧ next ≤ now then catchUp loc plan endTime now fuel next (calcNextResetTime loc next plan endTime)
    else some (base, next)

def resetBase (sub : UserSubscription) : Int :=
  if sub.lastResetTime ≤ 0 then sub.startTime else sub.lastResetTime

def resetRow (sub : UserSubscription) (first now base next : Int) : Option UserSubscription :=
  if 0 < first ∧ first ≤ now then
    some { sub with amountUsed := 0, lastResetTime := base, nextResetTime := next }
  else if sub.nextResetTime = 0 ∧ 0 < next then
    some { sub with nextResetTime := next, lastResetTime := base }
  else none

def resetOutcome (env : SubscriptionEnv) (sub : UserSubscription) (plan : SubscriptionPlan) (now : Int) :
    Option (Option UserSubscription) :=
  if 0 < sub.nextResetTime ∧ now < sub.nextResetTime then some none
  else if normalizeResetPeriod plan.quotaResetPeriod = .never then some none
  else
    let first := calcNextResetTime env.location (resetBase sub) plan sub.endTime
    (catchUp env.location plan sub.endTime now env.catchUpBound (resetBase sub) first).map
      fun period => resetRow sub first now period.1 period.2

inductive PreConsumeStatement where
  | start
  | findRecord
  | findSubscription
  | lock
  | plan (subscription : Int)
  | saveReset (subscription : Int)
  | create (subscription : Int)
  | findDuplicate (subscription : Int)
  | save (subscription : Int)
  | commit
deriving DecidableEq

inductive DeltaStatement where
  | start | lock | save | commit
deriving DecidableEq

inductive RefundStatement where
  | start
  | lock
  | delta (statement : DeltaStatement)
  | save
  | commit
deriving DecidableEq

abbrev SubscriptionDb (κ α : Type) := Db κ String SubscriptionStore α

namespace SubscriptionStore

variable (store : SubscriptionStore)

def saveSubscription (sub : UserSubscription) : SubscriptionStore :=
  { store with subscriptions := store.subscriptions.save sub }

def saveRecord (record : SubscriptionPreConsumeRecord) : SubscriptionStore :=
  { store with records := store.records.save record }

def insertRecord (record : SubscriptionPreConsumeRecord) : SubscriptionStore :=
  { store with records := store.records.insert record }

def amountUsed (id : Int) : Int :=
  match store.subscriptions.find? id with
  | some sub => sub.amountUsed
  | none => 0

def active (userId now : Int) : List UserSubscription :=
  store.subscriptions.rows.filter fun sub => sub.userId = userId ∧ sub.status = .active ∧ now < sub.endTime

def endsBefore (a b : UserSubscription) : Prop :=
  a.endTime < b.endTime ∨ (a.endTime = b.endTime ∧ a.id ≤ b.id)

instance : DecidableRel endsBefore := fun _ _ => inferInstanceAs (Decidable (_ ∨ _))

def candidates (userId now : Int) : List UserSubscription :=
  (store.active userId now).insertionSort endsBefore

end SubscriptionStore

def saveRow {κ : Type} (label : κ) (sub : UserSubscription) : SubscriptionDb κ Unit :=
  execute label fun store => store.saveSubscription sub

section Functions
variable (env : SubscriptionEnv)

def getSubscriptionPlanById (id : Int) : SubscriptionDb Unit SubscriptionPlan :=
  if id ≤ 0 then fail "invalid plan id"
  else match env.planCache id with
  | some plan => pure plan
  | none => do
    let found ← query () fun store => store.plans.find? id
    match found with
    | some plan => pure plan
    | none => fail "record not found"

def maybeResetUserSubscriptionWithPlanTx (sub : UserSubscription) (plan : SubscriptionPlan) (now : Int) :
    SubscriptionDb Unit UserSubscription :=
  match resetOutcome env sub plan now with
  | none => diverge
  | some none => pure sub
  | some (some row) => do
    saveRow () row
    pure row

def consumeRow (requestId : String) (userId amount : Int) (sub : UserSubscription) :
    SubscriptionDb PreConsumeStatement SubscriptionPreConsumeResult := do
  let created ← attempt do
    let existing ← query (.create sub.id) fun store => store.records.find? requestId
    match existing with
    | some _ => fail "UNIQUE constraint failed: subscription_pre_consume_records.request_id"
    | none => record fun store => store.insertRecord ⟨requestId, userId, sub.id, amount, .consumed⟩
  match created with
  | .error reason =>
    let found ← attempt (query (.findDuplicate sub.id) fun store => store.records.find? requestId)
    match found with
    | .ok (some dup) =>
      if dup.status = .refunded then fail "subscription pre-consume already refunded"
      else pure ⟨sub.id, dup.preConsumed, sub.amountTotal, sub.amountUsed, sub.amountUsed⟩
    | _ => fail reason
  | .ok () =>
    saveRow (.save sub.id) { sub with amountUsed := sub.amountUsed + amount }
    pure ⟨sub.id, amount, sub.amountTotal, sub.amountUsed, sub.amountUsed + amount⟩

def consumeFirst (requestId : String) (userId amount now : Int) :
    List UserSubscription → SubscriptionDb PreConsumeStatement SubscriptionPreConsumeResult
  | [] => fail ("subscription quota insufficient, need=" ++ toString amount)
  | candidate :: rest => do
    let plan ← (getSubscriptionPlanById env candidate.planId).within fun _ => .plan candidate.id
    let sub ← (maybeResetUserSubscriptionWithPlanTx env candidate plan now).within
      fun _ => .saveReset candidate.id
    if 0 < sub.amountTotal ∧ sub.amountTotal - sub.amountUsed < amount then
      consumeFirst requestId userId amount now rest
    else consumeRow requestId userId amount sub

def preConsumeInTx (requestId : String) (userId amount now : Int) :
    SubscriptionDb PreConsumeStatement SubscriptionPreConsumeResult := do
  let existing ← query .findRecord fun store => store.records.find? requestId
  match existing with
  | some record =>
    if record.status = .refunded then fail "subscription pre-consume already refunded"
    else do
      let found ← query .findSubscription fun store => store.subscriptions.find? record.userSubscriptionId
      match found with
      | none => fail "record not found"
      | some sub => pure ⟨sub.id, record.preConsumed, sub.amountTotal, sub.amountUsed, sub.amountUsed⟩
  | none =>
    let locked ← attempt (query .lock fun store => store.candidates userId now)
    match locked with
    -- A failed query and an empty answer read the same to the caller.
    | .error _ | .ok [] => fail "no active subscription"
    | .ok subs => consumeFirst env requestId userId amount now subs

def preConsumeUserSubscription (requestId : String) (userId amount now : Int) :
    SubscriptionDb PreConsumeStatement SubscriptionPreConsumeResult :=
  if userId ≤ 0 then fail "invalid userId"
  else if trimSpace requestId = "" then fail "requestId is empty"
  else if amount ≤ 0 then fail "amount must be > 0"
  else transaction .start .commit (preConsumeInTx env requestId userId amount now)

def getSubscriptionPlanInfoByUserSubscriptionId (userSubscriptionId : Int) :
    SubscriptionDb Bool SubscriptionPlanInfo :=
  if userSubscriptionId ≤ 0 then fail "invalid userSubscriptionId"
  else match env.planInfoCache userSubscriptionId with
  | some info => pure info
  | none => do
    let found ← query false fun store => store.subscriptions.find? userSubscriptionId
    match found with
    | none => fail "record not found"
    | some sub =>
      let plan ← (getSubscriptionPlanById env sub.planId).within fun _ => true
      pure ⟨sub.planId, plan.title⟩

end Functions

def deltaInTx (userSubscriptionId delta : Int) : SubscriptionDb DeltaStatement Unit := do
  let found ← query .lock fun store => store.subscriptions.find? userSubscriptionId
  match found with
  | none => fail "record not found"
  | some sub =>
    let newUsed := if sub.amountUsed + delta < 0 then 0 else sub.amountUsed + delta
    if 0 < sub.amountTotal ∧ sub.amountTotal < newUsed then
      fail ("subscription used exceeds total, used=" ++ toString newUsed ++ " total=" ++ toString sub.amountTotal)
    else saveRow .save { sub with amountUsed := newUsed }

def postConsumeUserSubscriptionDelta (userSubscriptionId delta : Int) : SubscriptionDb DeltaStatement Unit :=
  if userSubscriptionId ≤ 0 then fail "invalid userSubscriptionId"
  else if delta = 0 then pure ()
  else transaction .start .commit (deltaInTx userSubscriptionId delta)

def markRefunded (record : SubscriptionPreConsumeRecord) : SubscriptionDb RefundStatement Unit := do
  query .save fun _ => ()
  execute .commit fun store => store.saveRecord { record with status := .refunded }

/-- `PostConsumeUserSubscriptionDelta` runs on a transaction of its own, which a later failure does not undo. -/
def refundSubscriptionPreConsume (requestId : String) : SubscriptionDb RefundStatement Unit :=
  if trimSpace requestId = "" then fail "requestId is empty"
  else do
    query .start fun _ => ()
    let found ← query .lock fun store => store.records.find? requestId
    match found with
    | none => fail "record not found"
    | some record =>
      if record.status = .refunded then query .commit fun _ => ()
      else if record.preConsumed ≤ 0 then markRefunded record
      else do
        (postConsumeUserSubscriptionDelta record.userSubscriptionId (-record.preConsumed)).within .delta
        markRefunded record

def hasActiveUserSubscription (userId now : Int) : SubscriptionDb Unit Bool :=
  if userId ≤ 0 then fail "invalid userId"
  else query () fun store => decide (0 < (store.active userId now).length)

def userActiveSubscriptionsAllowWalletOverflow (userId now : Int) : SubscriptionDb Unit Bool :=
  if userId ≤ 0 then fail "invalid userId"
  else query () fun store => decide
    (((store.active userId now).filter fun sub => sub.allowWalletOverflow = false).length = 0)

end NewApi.Model
