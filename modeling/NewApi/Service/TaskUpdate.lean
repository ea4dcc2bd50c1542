import NewApi.Service.TaskBilling

/-!
# What one look at a task does to it

The sweep of tasks that have waited too long, the poll of a video task, and one item of an answer
from Suno. Each works on a copy of the row; the first two end with an update guarded by the status
the copy had.
-/

namespace NewApi.Service
open Library Model

structure TaskPollingEnv where
  billing : TaskBillingEnv
  taskTimeoutMinutes : Int
  taskQueryLimit : Nat
  buildProxyURL : String → String

inductive TaskBilling where
  | refund
  | settle (totalTokens : Int)
deriving DecidableEq

def legacyTaskCutoff : Int := 1740182400

def isLegacy (task : Task) : Bool := decide (0 < task.submitTime ∧ task.submitTime < legacyTaskCutoff)

variable (env : TaskPollingEnv) (now : Int) (task : Task)

def timedOut : Task :=
  { task with
    status := .failure
    progress := "100%"
    finishTime := now
    failReason := if isLegacy task then "任务超时（旧系统遗留任务，不进行退款，请联系管理员）"
      else s!"任务超时（{env.taskTimeoutMinutes}分钟）" }

def sweepTimedOutTask : TaskDb (Task × Option TaskBilling) := do
  let failed := timedOut env now task
  let won ← Db.attempt (failed.updateWithStatus task.status)
  match won with
  | .ok true => pure (failed, if !isLegacy task && task.quota != 0 then some .refund else none)
  | _ => pure (failed, none)

structure TaskInfo where
  status : TaskStatus
  (reason url progress : String := "")
  totalTokens : Int := 0

def failTaskInfo (reason : String) : TaskInfo := { status := .failure, reason := reason }

inductive ErrorBody where
  | unreadable | tooManyRequests | openAIError | unrecognized

structure VideoReply where
  info : TaskInfo
  data : List UInt8 := []
  errorBody : ErrorBody := .unrecognized

def VideoReply.taskResult (reply : VideoReply) : Option TaskInfo :=
  if reply.info.status ≠ .other "" then some reply.info
  else match reply.errorBody with
  | .unreadable => some reply.info
  | .tooManyRequests => none
  | .openAIError => some (failTaskInfo "upstream returned error")
  | .unrecognized => some (failTaskInfo "upstream returned unrecognized message")

def resultURL (env : TaskPollingEnv) (task : Task) (url : String) : String :=
  if "data:".toList.isPrefixOf url.toList then env.buildProxyURL task.taskID
  else if url ≠ "" then url
  else env.buildProxyURL task.taskID

def orNow (now time : Int) : Int := if time = 0 then now else time

def reported (progress default : String) : String := if progress ≠ "" then progress else default

def applyResult (info : TaskInfo) : Option Task :=
  match info.status with
  | .submitted => some { task with status := .submitted, progress := reported info.progress "10%" }
  | .queued => some { task with status := .queued, progress := reported info.progress "20%" }
  | .inProgress => some { task with
      status := .inProgress
      progress := reported info.progress "30%"
      startTime := orNow now task.startTime }
  | .success => some { task with
      status := .success
      progress := reported info.progress "100%"
      finishTime := orNow now task.finishTime
      privateData := { task.privateData with resultURL := resultURL env task info.url } }
  | .failure => some { task with
      status := .failure
      progress := "100%"
      finishTime := orNow now task.finishTime
      failReason := info.reason }
  | .notStart | .unknown | .other _ => none

def billingDue (task : Task) (info : TaskInfo) : Option TaskBilling :=
  match info.status with
  | .success => some (.settle info.totalTokens)
  | .failure => if task.quota ≠ 0 then some .refund else none
  | _ => none

def updateVideoSingleTask (reply : VideoReply) :
    TaskDb (Task × Option TaskBilling) :=
  let read := { task with data := reply.data }
  match reply.taskResult with
  | none => pure (read, none)
  | some info =>
    match applyResult env now read info with
    | none => pure ({ read with status := info.status }, none)
    | some updated =>
      if updated.status.isDone ∧ task.status ≠ updated.status then do
        let won ← Db.attempt (updated.updateWithStatus task.status)
        match won with
        | .ok true => pure (updated, billingDue task info)
        | _ => pure (updated, none)
      else if task.snapshot ≠ updated.snapshot then do
        let _ ← Db.attempt (updated.updateWithStatus task.status)
        pure (updated, billingDue task info)
      else pure (updated, billingDue task info)

structure SunoDataResponse where
  taskID : String
  status : TaskStatus
  failReason : String := ""
  (submitTime startTime finishTime : Int := 0)
  data : List UInt8 := []

def sortedData (data : List UInt8) : List UInt8 := data.insertionSort (· ≤ ·)

def taskNeedsUpdate (oldTask : Task) (newTask : SunoDataResponse) : Bool :=
  oldTask.submitTime != newTask.submitTime || oldTask.startTime != newTask.startTime ||
    oldTask.finishTime != newTask.finishTime || oldTask.status != newTask.status ||
    oldTask.failReason != newTask.failReason || (oldTask.status.isDone && oldTask.progress != "100%") ||
    sortedData oldTask.data != sortedData newTask.data

def sunoStatus (task : Task) (item : SunoDataResponse) : TaskStatus :=
  if item.status ≠ .other "" then item.status else task.status

def sunoFails (task : Task) (item : SunoDataResponse) : Bool :=
  item.failReason != "" || sunoStatus task item == .failure

def applySuno (task : Task) (item : SunoDataResponse) : Task :=
  { task with
    status := sunoStatus task item
    failReason := if item.failReason ≠ "" then item.failReason else task.failReason
    submitTime := if item.submitTime ≠ 0 then item.submitTime else task.submitTime
    startTime := if item.startTime ≠ 0 then item.startTime else task.startTime
    finishTime := if item.finishTime ≠ 0 then item.finishTime else task.finishTime
    progress := if sunoFails task item || item.status == .success then "100%" else task.progress
    data := item.data }

end NewApi.Service
