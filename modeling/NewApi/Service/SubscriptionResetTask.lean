import NewApi.Model.SubscriptionReset

/-!
# The subscription task

Once a minute the master node expires and resets subscriptions, batch after batch until one comes
back short. A loop is given a number of rounds; `none` says that they were used up. The clock stands
still during a run.
-/

namespace NewApi.Service
open Library Model

inductive ResetTaskStatement where
  | expire (round : Nat) (statement : ExpireStatement)
  | reset (round : Nat) (statement : ResetDueStatement)
  | cleanup

abbrev ResetTaskDb (α : Type) := Db ResetTaskStatement String OrderStore α

def subscriptionResetBatchSize : Nat := 300

def batches (call : Nat → ResetTaskDb Nat) : Nat → Nat → ResetTaskDb (Option Nat)
  | 0, _ => pure none
  | fuel + 1, round => do
    let n ← call round
    if n = 0 then pure (some 0)
    else if n < subscriptionResetBatchSize then pure (some n)
    else do
      let more ← batches call fuel (round + 1)
      pure (more.map fun total => n + total)

def expireRound (order : Nat → MapOrder) (now : Int) (round : Nat) : ResetTaskDb Nat :=
  (expireDueSubscriptions (order round) subscriptionResetBatchSize now).within (ResetTaskStatement.expire round)

def resetRound (env : SubscriptionEnv) (now : Int) (round : Nat) : ResetTaskDb Nat :=
  Db.zoom OrderStore.subscriptions OrderStore.setSubscriptions
    ((resetDueSubscriptions env subscriptionResetBatchSize now).within (ResetTaskStatement.reset round))

structure ResetTaskTotals where
  (expired reset : Nat)

def cleanupSubscriptionPreConsumeRecords (old : SubscriptionPreConsumeRecord → Bool) (store : OrderStore) : OrderStore :=
  store.setSubscriptions { store.subscriptions with records := store.subscriptions.records.filter fun record => !old record }

def cleanup (cleanupDue : Bool) (old : SubscriptionPreConsumeRecord → Bool) : ResetTaskDb Unit :=
  if cleanupDue then do
    let _ ← Db.attempt (Db.execute .cleanup (cleanupSubscriptionPreConsumeRecords old))
    pure ()
  else pure ()

/-- `running` keeps a second run out, `cleanupDue` says that the last cleanup was half an hour ago.
An error ends the run with a warning. -/
def runSubscriptionQuotaResetOnce (env : SubscriptionEnv) (order : Nat → MapOrder) (now : Int)
    (running cleanupDue : Bool)
    (old : SubscriptionPreConsumeRecord → Bool) (fuel : Nat) : ResetTaskDb (Option ResetTaskTotals) :=
  if running then pure (some ⟨0, 0⟩)
  else do
    let expired ← Db.attempt (batches (expireRound order now) fuel 0)
    match expired with
    | .error _ => pure (some ⟨0, 0⟩)
    | .ok none => pure none
    | .ok (some totalExpired) => do
      let reset ← Db.attempt (batches (resetRound env now) fuel 0)
      match reset with
      | .error _ => pure (some ⟨totalExpired, 0⟩)
      | .ok none => pure none
      | .ok (some totalReset) => do
        cleanup cleanupDue old
        pure (some ⟨totalExpired, totalReset⟩)

end NewApi.Service
