import NewApi.Service.SessionRun
import NewApi.Service.TaskBilling

/-!
# Submitted tasks

Once the upstream has accepted a task, `RelayTask` settles the session with the quota of the submission
and stores the task with what its later billing reads. An error of either step is only logged.
-/

namespace NewApi.Service
open Library Model

def billingSourceText : Option BillingSource → String
  | none => ""
  | some .wallet => "wallet"
  | some .subscription => "subscription"

/-- What the row takes from the submission itself. -/
structure TaskSubmission where
  id : Int
  taskID : String
  platform : TaskPlatform
  channelId : Int
  submitTime : Int := 0

def initTask (submission : TaskSubmission) (relayInfo : RelayInfo) : Task where
  id := submission.id
  taskID := submission.taskID
  platform := submission.platform
  userId := relayInfo.userId
  channelId := submission.channelId
  quota := 0
  status := .notStart
  submitTime := submission.submitTime
  progress := "0%"

def insertedTask (submission : TaskSubmission) (session : BillingSession) (quota : Int) : Task :=
  { initTask submission session.relayInfo with
    quota := quota
    privateData :=
      { billingSource := billingSourceText session.relayInfo.billingSource
        subscriptionId := session.relayInfo.subscriptionId
        tokenId := session.relayInfo.tokenId } }

structure TaskLedger where
  store : BillingStore
  task : Task
  refunded : Bool := false

def settleAndInsert (env : BillingEnv) (submission : TaskSubmission) (session : BillingSession) (quota : Int)
    (faults : Faults SessionStatement String) (store : BillingStore) : TaskLedger :=
  ⟨(session.settle env quota faults store).2, insertedTask submission session quota, false⟩

inductive TaskCall where
  | recalculate (actualQuota : Int)
  | refund

def TaskLedger.step (env : TaskBillingEnv) (ledger : TaskLedger)
    (call : TaskCall × Faults TaskBillingStatement String) : TaskLedger :=
  match call.1 with
  | .recalculate actualQuota =>
    match recalculateTaskQuota env ledger.task actualQuota call.2 ledger.store with
    | (.ok (some quota), store) => { ledger with store := store, task := { ledger.task with quota := quota } }
    | (_, store) => { ledger with store := store }
  | .refund =>
    match refundTaskQuota env ledger.task call.2 ledger.store with
    | (.ok true, store) => { ledger with store := store, refunded := true }
    | (_, store) => { ledger with store := store }

end NewApi.Service
