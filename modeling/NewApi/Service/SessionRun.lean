import NewApi.Library.Run
import NewApi.Service.BillingSession

/-!
# Histories of a billing session

The mutex of the session serialises its calls. The goroutine of an accepted refund runs beside them,
with its steps anywhere after the refund. Each event carries the statements that fail in it.
-/

namespace NewApi.Service
open Library Model BillingSession

structure SessionState where
  session : BillingSession
  store : BillingStore
  job : Option RefundJob

inductive SessionCall where
  | reserve (targetQuota : Int)
  | settle (actualQuota : Int)
  | refund
  | refundWork

structure SessionEvent where
  call : SessionCall
  faults : Faults SessionStatement String

namespace SessionState
variable (env : BillingEnv)

def perform (state : SessionState) (event : SessionEvent) : Option String × SessionState :=
  match event.call with
  | .reserve targetQuota =>
    match state.session.reserve env targetQuota event.faults state.store with
    | (.ok (.ok (), session), store) => (none, { state with session := session, store := store })
    | (.ok (.error apiErr, session), store) => (some apiErr.message, { state with session := session, store := store })
    | (.error _, store) => (some "unreachable", { state with store := store })
  | .settle actualQuota =>
    match state.session.settle env actualQuota event.faults state.store with
    | (.ok (.ok (), session), store) => (none, { state with session := session, store := store })
    | (.ok (.error reason, session), store) => (some reason, { state with session := session, store := store })
    | (.error _, store) => (some "unreachable", { state with store := store })
  | .refund =>
    match state.session.refund with
    | (none, session) => (none, { state with session := session })
    | (some job, session) => (none, { state with session := session, job := some job })
  | .refundWork =>
    match state.job with
    | none => (none, state)
    | some job =>
      match job.step env event.faults state.store with
      | (.ok (.ok (), job), store) => (none, { state with job := some job, store := store })
      | (.ok (.error reason, job), store) => (some reason, { state with job := some job, store := store })
      | (.error _, store) => (some "unreachable", { state with store := store })

def step (state : SessionState) (event : SessionEvent) : SessionState := (perform env state event).2

def start (session : BillingSession) (store : BillingStore) : SessionState := ⟨session, store, none⟩

end SessionState

def FundingSource.account : FundingSource → FundingAccount
  | .wallet funding => .user funding.userId
  | .subscription funding => .subscription funding.subscriptionId

structure SessionAccounts where
  funding : FundingAccount
  tokenId : Int
  isPlayground : Bool

def SessionAccounts.tokenShare (accounts : SessionAccounts) (amount : Int) : Int :=
  if accounts.isPlayground then 0 else amount

def BillingSession.accounts (s : BillingSession) : SessionAccounts :=
  ⟨s.funding.account, s.relayInfo.tokenId, s.relayInfo.isPlayground⟩

namespace BillingStore

def fundingDebit (before after : BillingStore) : FundingAccount → Int
  | .user id => before.accounts.userBalance id - after.accounts.userBalance id
  | .subscription id => after.subscriptions.amountUsed id - before.subscriptions.amountUsed id

def tokenDebit (before after : BillingStore) (tokenId : Int) : Int :=
  before.accounts.tokenBalance tokenId - after.accounts.tokenBalance tokenId

end BillingStore
end NewApi.Service
