import NewApi.Library.Db
import NewApi.Library.Table

/-!
# Asynchronous tasks

The table `tasks`, with the columns that polling and billing read or write. Rows are never deleted.
-/

namespace NewApi.Model
open Library

inductive TaskStatus where
  | notStart
  | submitted
  | queued
  | inProgress
  | failure
  | success
  | unknown
  | other (text : String)
deriving DecidableEq

def TaskStatus.isDone : TaskStatus → Bool
  | .failure => true
  | .success => true
  | _ => false

inductive TaskPlatform where
  | suno
  | midjourney
  | video (name : String)
deriving DecidableEq

structure TaskPrivateData where
  (upstreamTaskID resultURL billingSource : String := "")
  (subscriptionId tokenId : Int := 0)
  perCallBilling : Bool := false

structure Task where
  id : Int
  taskID : String
  platform : TaskPlatform
  (userId channelId quota : Int)
  status : TaskStatus
  failReason : String := ""
  (submitTime startTime finishTime : Int := 0)
  progress : String
  privateData : TaskPrivateData := {}
  data : List UInt8 := []

structure TaskSnapshot where
  status : TaskStatus
  progress : String
  (startTime finishTime : Int)
  (failReason resultURL : String)
  data : List UInt8
deriving DecidableEq

abbrev TaskTable := Table Task.id

abbrev TaskDb (α : Type) := Db Unit String TaskTable α

namespace Task
variable (task : Task)

def getUpstreamTaskID : String :=
  if task.privateData.upstreamTaskID ≠ "" then task.privateData.upstreamTaskID else task.taskID

def snapshot : TaskSnapshot where
  status := task.status
  progress := task.progress
  startTime := task.startTime
  finishTime := task.finishTime
  failReason := task.failReason
  resultURL := task.privateData.resultURL
  data := task.data

def unfinished : Bool := task.progress != "100%" && !task.status.isDone

def update : TaskDb Unit := Db.execute () fun tasks => tasks.save task

def updateQuota : TaskDb Unit := Db.execute () fun tasks =>
  tasks.modify (fun row => if row.id = task.id then { row with quota := task.quota } else row)
    (fun row => by split_ifs <;> rfl)

def updateWithStatus (fromStatus : TaskStatus) : TaskDb Bool := Db.statement () fun tasks =>
  match tasks.find? task.id with
  | none => (false, tasks)
  | some row => if row.status = fromStatus then (true, tasks.save task) else (false, tasks)

end Task

def findTasks (select : TaskTable → TaskTable) : TaskDb TaskTable := do
  let found ← Db.attempt (Db.query () select)
  match found with
  | .ok tasks => pure tasks
  | .error _ => pure Table.empty

def getTimedOutUnfinishedTasks (cutoffUnix : Int) (limit : Nat) : TaskDb TaskTable :=
  findTasks fun tasks =>
    ((tasks.filter fun task => task.unfinished && decide (task.submitTime < cutoffUnix)).orderBy
      fun a b => a.submitTime ≤ b.submitTime).limit limit

def getAllUnFinishSyncTasks (limit : Nat) : TaskDb TaskTable :=
  findTasks fun tasks => ((tasks.filter Task.unfinished).orderBy fun a b => a.id ≤ b.id).limit limit

def Task.closed (row : Task) (failReason : Option String) : Task :=
  { row with status := .failure, progress := "100%", failReason := failReason.getD row.failReason }

def taskBulkUpdateByID (ids : List Int) (failReason : Option String) : TaskDb Unit :=
  if ids = [] then pure ()
  else Db.execute () fun tasks =>
    tasks.modify (fun row => if row.id ∈ ids then row.closed failReason else row) (fun row => by split_ifs <;> rfl)

end NewApi.Model
