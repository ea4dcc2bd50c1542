import NewApi.Model.Task
import NewApi.Service.FundingSource

/-!
# Billing of asynchronous tasks

The calls that give the pre-charge of a task back or settle it. Logs and usage counters are left out.
-/

namespace NewApi.Service
open Library Model

structure TaskBillingEnv where
  accounts : AccountEnv
  resolveTokenKey : Int → String
  quotaByTokens : Task → Int → Option Int

inductive TaskBillingStatement where
  | funding (statement : FundingStatement)
  | token

def taskIsSubscription (task : Task) : Bool :=
  task.privateData.billingSource == "subscription" && decide (0 < task.privateData.subscriptionId)

def taskAccount (task : Task) : FundingAccount :=
  if taskIsSubscription task then .subscription task.privateData.subscriptionId else .user task.userId

section Functions
variable (env : TaskBillingEnv)

variable (task : Task)

def taskAdjustFunding (delta : Int) : BillingDb FundingStatement Unit :=
  if taskIsSubscription task then
    onSubscriptions .delta (postConsumeUserSubscriptionDelta task.privateData.subscriptionId delta)
  else if 0 < delta then onAccounts .wallet (decreaseUserQuota env.accounts task.userId delta false)
  else onAccounts .wallet (increaseUserQuota env.accounts task.userId (-delta) false)

def taskAdjustTokenQuota (delta : Int) : BillingDb TaskBillingStatement Unit :=
  if task.privateData.tokenId ≤ 0 ∨ delta = 0 then pure ()
  else if env.resolveTokenKey task.privateData.tokenId = "" then pure ()
  else do
    let _ ← Db.attempt <| onAccounts .token <|
      if 0 < delta then decreaseTokenQuota env.accounts task.privateData.tokenId delta
      else increaseTokenQuota env.accounts task.privateData.tokenId (-delta)
    pure ()

def adjustTask (delta : Int) : BillingDb TaskBillingStatement Bool := do
  let adjusted ← Db.attempt ((taskAdjustFunding env task delta).within .funding)
  match adjusted with
  | .error _ => pure false
  | .ok () =>
    taskAdjustTokenQuota env task delta
    pure true

def refundTaskQuota : BillingDb TaskBillingStatement Bool :=
  if task.quota = 0 then pure false else adjustTask env task (-task.quota)

def recalculateTaskQuota (actualQuota : Int) : BillingDb TaskBillingStatement (Option Int) :=
  if actualQuota ≤ 0 then pure none
  else
    let quotaDelta := actualQuota - task.quota
    if quotaDelta = 0 then pure none
    else do
      let adjusted ← adjustTask env task quotaDelta
      pure (if adjusted then some actualQuota else none)

def recalculateTaskQuotaByTokens (totalTokens : Int) :
    BillingDb TaskBillingStatement (Option Int) :=
  if totalTokens ≤ 0 then pure none
  else match env.quotaByTokens task totalTokens with
  | none => pure none
  | some actualQuota => recalculateTaskQuota env task actualQuota

def settleTaskBillingOnComplete (adjusted totalTokens : Int) :
    BillingDb TaskBillingStatement (Option Int) :=
  if task.privateData.perCallBilling then pure none
  else if 0 < adjusted then recalculateTaskQuota env task adjusted
  else if 0 < totalTokens then recalculateTaskQuotaByTokens env task totalTokens
  else pure none

end Functions
end NewApi.Service
