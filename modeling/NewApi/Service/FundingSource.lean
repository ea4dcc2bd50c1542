import NewApi.Model.Accounts
import NewApi.Model.Subscription

namespace NewApi.Service
open Library Model

structure BillingStore where
  accounts : Accounts
  subscriptions : SubscriptionStore

/-- `dbTimestamp` is the clock of a pre-consume, the others those of the checks that decide between
subscription and wallet. -/
structure BillingEnv where
  accounts : AccountEnv
  subscriptions : SubscriptionEnv
  quotaPerUnit : Rat
  formatQuota : Int → String
  (dbTimestamp activeCheckedAt overflowCheckedAt : Int)

inductive BillingSource where
  | wallet | subscription
deriving DecidableEq

inductive FundingAccount where
  | user (id : Int)
  | subscription (id : Int)
deriving DecidableEq

inductive FundingStatement where
  | wallet
  | preConsume (statement : PreConsumeStatement)
  | planInfo (plan : Bool)
  | delta (statement : DeltaStatement)
  | refund (attempt : Nat) (statement : RefundStatement)
deriving DecidableEq

abbrev BillingDb (κ α : Type) := Db κ String BillingStore α

def onAccounts {κ α : Type} (label : κ) (body : AccountDb α) : BillingDb κ α :=
  (body.zoom (fun store : BillingStore => store.accounts)
    (fun store accounts => { store with accounts := accounts })).within fun _ => label

def onSubscriptions {κ κ' α : Type} (scope : κ' → κ) (body : SubscriptionDb κ' α) : BillingDb κ α :=
  (body.zoom (fun store : BillingStore => store.subscriptions)
    (fun store subscriptions => { store with subscriptions := subscriptions })).within scope

structure WalletFunding where
  (userId consumed : Int)

structure SubscriptionFunding where
  requestId : String
  (userId amount : Int)
  (subscriptionId preConsumed amountTotal amountUsedAfter planId : Int := 0)
  planTitle : String := ""

inductive FundingSource where
  | wallet (funding : WalletFunding)
  | subscription (funding : SubscriptionFunding)

def retryFrom {κ σ : Type} (fn : Nat → Db κ String σ Unit) : Nat → Nat → Db κ String σ Unit
  | 0, _ => pure ()
  | 1, attempt => fn attempt
  | remaining + 2, attempt => do
    let outcome ← Db.attempt (fn attempt)
    match outcome with
    | .ok () => pure ()
    | .error _ => retryFrom fn (remaining + 1) (attempt + 1)

def maxAttempts : Nat := 3

def refundWithRetry {κ σ : Type} (fn : Nat → Db κ String σ Unit) : Db κ String σ Unit :=
  retryFrom fn maxAttempts 0

namespace FundingSource
variable (env : BillingEnv)

def source : FundingSource → BillingSource
  | .wallet _ => .wallet
  | .subscription _ => .subscription

def preConsume (amount : Int) : FundingSource → BillingDb FundingStatement FundingSource
  | .wallet funding =>
    if amount ≤ 0 then pure (.wallet funding)
    else do
      onAccounts .wallet (decreaseUserQuota env.accounts funding.userId amount false)
      pure (.wallet { funding with consumed := amount })
  | .subscription funding => do
    let res ← onSubscriptions .preConsume (preConsumeUserSubscription env.subscriptions
      funding.requestId funding.userId funding.amount env.dbTimestamp)
    let charged := { funding with
      subscriptionId := res.userSubscriptionId, preConsumed := res.preConsumed
      amountTotal := res.amountTotal, amountUsedAfter := res.amountUsedAfter }
    let planInfo ← Db.attempt (onSubscriptions .planInfo
      (getSubscriptionPlanInfoByUserSubscriptionId env.subscriptions res.userSubscriptionId))
    match planInfo with
    | .ok info => pure (.subscription { charged with planId := info.planId, planTitle := info.planTitle })
    | .error _ => pure (.subscription charged)

def settle (delta : Int) : FundingSource → BillingDb FundingStatement Unit
  | .wallet funding =>
    if delta = 0 then pure ()
    else if 0 < delta then onAccounts .wallet (decreaseUserQuota env.accounts funding.userId delta false)
    else onAccounts .wallet (increaseUserQuota env.accounts funding.userId (-delta) false)
  | .subscription funding =>
    if delta = 0 then pure ()
    else onSubscriptions .delta (postConsumeUserSubscriptionDelta funding.subscriptionId delta)

def refundAttempt (funding : SubscriptionFunding) (attempt : Nat) : BillingDb FundingStatement Unit :=
  onSubscriptions (.refund attempt) (refundSubscriptionPreConsume funding.requestId)

def refund : FundingSource → BillingDb FundingStatement Unit
  | .wallet funding =>
    if funding.consumed ≤ 0 then pure ()
    else onAccounts .wallet (increaseUserQuota env.accounts funding.userId funding.consumed false)
  | .subscription funding => if funding.preConsumed ≤ 0 then pure () else refundWithRetry (refundAttempt funding)

end FundingSource
end NewApi.Service
