import NewApi.Library.Run
import NewApi.Library.Script
import NewApi.Library.Table

/-!
# System tasks

A task is pending until a runner has taken the lock of its type and set it running. The lock
expires: its holder renews it, another runner may take it over then, and a cleanup fails the tasks
of expired locks. Each statement commits by itself. A function reads the clock once.
-/

namespace NewApi.Model
open Library

inductive SystemTaskStatus where
  | pending | running | succeeded | failed
deriving DecidableEq

namespace SystemTaskStatus

def active (status : SystemTaskStatus) : Prop := status = .pending ∨ status = .running

def terminal (status : SystemTaskStatus) : Prop := status = .succeeded ∨ status = .failed

instance (status : SystemTaskStatus) : Decidable status.active := inferInstanceAs (Decidable (_ ∨ _))

instance (status : SystemTaskStatus) : Decidable status.terminal := inferInstanceAs (Decidable (_ ∨ _))

end SystemTaskStatus

structure SystemTask where
  id : Int
  (taskId type : String)
  status : SystemTaskStatus
  activeKey : Option String
  (payload state result error lockedBy : String)
  (createdAt updatedAt : Int)
deriving DecidableEq

structure SystemTaskLock where
  (type taskId lockedBy : String)
  (lockedUntil updatedAt : Int)
deriving DecidableEq

structure SystemTaskDb where
  tasks : Table SystemTask.id
  locks : Table SystemTaskLock.type
  clock : Int

abbrev Outcome := { status : SystemTaskStatus // status.terminal }

inductive SystemTaskStatement where
  | getTimestamp
  | createTask (task : SystemTask)
  | findPending (id : Int) (type : String)
  | findTask (id : Int)
  | setRunning (id : Int) (type runnerId : String) (now : Int)
  | updateState (taskId lockedBy state : String) (now : Int)
  | finishTask (taskId lockedBy : String) (status : Outcome) (result error : String) (now : Int)
  | markExpired (taskId : String) (now : Int)
  | createLock (lock : SystemTaskLock)
  | findLock (type : String)
  | takeOverLock (lock : SystemTaskLock) (now : Int)
  | renewLock (taskId lockedBy : String) (now lockUntil : Int)
  | findStaleLocks (now : Int)
  | deleteStaleLock (lock : SystemTaskLock) (now : Int)
  | releaseLock (taskId lockedBy : String)
deriving DecidableEq

abbrev SystemTaskStatement.Answer : SystemTaskStatement → Type
  | .getTimestamp => Int
  | .findPending _ _ | .findTask _ => Option SystemTask
  | .findLock _ => Option SystemTaskLock
  | .findStaleLocks _ => List SystemTaskLock
  | .setRunning _ _ _ _ | .updateState _ _ _ _ | .finishTask _ _ _ _ _ _ | .takeOverLock _ _ | .renewLock _ _ _ _ => Nat
  | _ => Unit

namespace SystemTaskDb

variable (db : SystemTaskDb)

def nextTaskId : Int := (db.tasks.rows.map SystemTask.id).foldl max 0 + 1

def taken (task : SystemTask) : Prop :=
  ∃ row ∈ db.tasks.rows, row.taskId = task.taskId ∨ (task.activeKey ≠ none ∧ row.activeKey = task.activeKey)

instance (db : SystemTaskDb) (task : SystemTask) : Decidable (db.taken task) :=
  inferInstanceAs (Decidable (∃ row ∈ db.tasks.rows, _))

def Claimable (id : Int) (type : String) (task : SystemTask) :
    Prop := task.id = id ∧ task.type = type ∧ task.status = .pending

instance (id : Int) (type : String) : DecidablePred (Claimable id type) := fun _ => inferInstanceAs (Decidable (_ ∧ _))

def Owned (taskId lockedBy : String) (now : Int) (task : SystemTask) : Prop :=
  (task.taskId = taskId ∧ task.status = .running ∧ task.lockedBy = lockedBy) ∧
  ∃ lock ∈ db.locks.rows, lock.taskId = task.taskId ∧ lock.lockedBy = lockedBy ∧ now ≤ lock.lockedUntil

instance (db : SystemTaskDb) (taskId lockedBy : String) (now : Int) : DecidablePred (db.Owned taskId lockedBy now) :=
  fun _ => inferInstanceAs (Decidable (_ ∧ ∃ lock ∈ db.locks.rows, _))

def Renewable (taskId lockedBy : String) (now : Int) (lock : SystemTaskLock) : Prop :=
  lock.taskId = taskId ∧ lock.lockedBy = lockedBy ∧ now ≤ lock.lockedUntil

instance (taskId lockedBy : String) (now : Int) : DecidablePred (Renewable taskId lockedBy now) :=
  fun _ => inferInstanceAs (Decidable (_ ∧ _))

def setTasks (tasks : Table SystemTask.id) : SystemTaskDb := { db with tasks := tasks }

def setLocks (locks : Table SystemTaskLock.type) : SystemTaskDb := { db with locks := locks }

def answer : (statement : SystemTaskStatement) → Except String statement.Answer × SystemTaskDb
  | .getTimestamp => (.ok db.clock, db)
  | .createTask task =>
    if db.taken task then (.error "UNIQUE constraint failed: system_tasks", db)
    else (.ok (), db.setTasks (db.tasks.insert { task with id := db.nextTaskId }))
  | .findPending id type => (.ok (db.tasks.rows.find? (Claimable id type ·)), db)
  | .findTask id => (.ok (db.tasks.find? id), db)
  | .setRunning id type runnerId now =>
    (.ok (db.tasks.countWhere (Claimable id type)), db.setTasks (db.tasks.updateWhere (Claimable id type)
      (fun row => { row with status := .running, lockedBy := runnerId, updatedAt := now }) fun _ => rfl))
  | .updateState taskId lockedBy state now =>
    (.ok (db.tasks.countWhere (db.Owned taskId lockedBy now)),
      db.setTasks (db.tasks.updateWhere (db.Owned taskId lockedBy now)
      (fun row => { row with state := state, updatedAt := now }) fun _ => rfl))
  | .finishTask taskId lockedBy status result error now =>
    (.ok (db.tasks.countWhere (db.Owned taskId lockedBy now)),
      db.setTasks (db.tasks.updateWhere (db.Owned taskId lockedBy now)
      (fun row => { row with status := status, activeKey := none, result := result, error := error, updatedAt := now })
      fun _ => rfl))
  | .markExpired taskId now =>
    (.ok (), db.setTasks (db.tasks.updateWhere (fun row => row.taskId = taskId ∧ row.status = .running)
      (fun row => { row with status := .failed, activeKey := none, error := "task lease expired", updatedAt := now })
      fun _ => rfl))
  | .createLock lock =>
    match db.locks.find? lock.type with
    | some _ => (.error "UNIQUE constraint failed: system_task_locks.type", db)
    | none => (.ok (), db.setLocks (db.locks.insert lock))
  | .findLock type => (.ok (db.locks.find? type), db)
  | .takeOverLock lock now =>
    (.ok (db.locks.countWhere fun row => row.type = lock.type ∧ row.lockedUntil < now),
      db.setLocks (db.locks.updateWhere (fun row => row.type = lock.type ∧ row.lockedUntil < now)
        (fun row => { lock with type := row.type }) fun _ => rfl))
  | .renewLock taskId lockedBy now lockUntil =>
    (.ok (db.locks.countWhere (Renewable taskId lockedBy now)),
      db.setLocks (db.locks.updateWhere (Renewable taskId lockedBy now)
      (fun row => { row with lockedUntil := lockUntil, updatedAt := now }) fun _ => rfl))
  | .findStaleLocks now => (.ok (db.locks.rows.filter (·.lockedUntil < now)), db)
  | .deleteStaleLock lock now =>
    (.ok (), db.setLocks (db.locks.deleteWhere fun row =>
      row.type = lock.type ∧ row.taskId = lock.taskId ∧ row.lockedBy = lock.lockedBy ∧ row.lockedUntil < now))
  | .releaseLock taskId lockedBy =>
    (.ok (), db.setLocks (db.locks.deleteWhere fun row => row.taskId = taskId ∧ row.lockedBy = lockedBy))

def exec : Exec SystemTaskDb SystemTaskStatement SystemTaskStatement.Answer String := fun _ statement fault db =>
  match fault with
  | none => some (db.answer statement)
  | some reason => some (if statement = .getTimestamp then db.answer statement else (.error reason, db))

end SystemTaskDb

abbrev SystemTaskScript (α : Type) := Script SystemTaskStatement SystemTaskStatement.Answer String α

namespace SystemTask
open Script (fail)

def query (statement : SystemTaskStatement) : SystemTaskScript statement.Answer := Script.statement statement

def createSystemTask (taskType taskId payload state : String) : SystemTaskScript Unit := do
  let now ← query .getTimestamp
  query (.createTask ⟨0, taskId, taskType, .pending, some taskType, payload, state, "", "", "", now, now⟩)

def markSystemTaskLeaseExpired (taskId : String) : SystemTaskScript Unit := do
  let now ← query .getTimestamp
  query (.markExpired taskId now)

variable (taskId lockedBy : String)

def releaseSystemTaskLock : SystemTaskScript Unit := query (.releaseLock taskId lockedBy)

def acquireSystemTaskLock (taskType taskId lockedBy : String) (now lockUntil : Int) :
    SystemTaskScript (Option String) := do
  let created ← (query (.createLock ⟨taskType, taskId, lockedBy, lockUntil, now⟩)).attempt
  match created with
  | .ok () => pure (some "")
  | .error _ =>
    let found ← query (.findLock taskType)
    match found with
    | none => pure none
    | some existing =>
      if now ≤ existing.lockedUntil then pure none
      else do
        let rows ← query (.takeOverLock ⟨taskType, taskId, lockedBy, lockUntil, now⟩ now)
        if rows = 0 then pure none else pure (some existing.taskId)

def giveUp (taskId runnerId : String) (result : Except String (Option SystemTask)) :
    SystemTaskScript (Option SystemTask) :=
  (releaseSystemTaskLock taskId runnerId).andThen fun _ => .done result

def setRunning (id : Int) (taskType : String) (task : SystemTask) (runnerId : String) (now : Int) :
    SystemTaskScript (Option SystemTask) := do
  let rows ← (query (.setRunning id taskType runnerId now)).attempt
  match rows with
  | .error reason => giveUp task.taskId runnerId (.error reason)
  | .ok rows =>
    if rows = 0 then giveUp task.taskId runnerId (.ok none)
    else do
      let found ← query (.findTask id)
      match found with
      | none => fail "record not found"
      | some task => pure (some task)

def claimSystemTask (id : Int) (taskType runnerId : String) (lockUntil : Int) :
    SystemTaskScript (Option SystemTask) := do
  let now ← query .getTimestamp
  let found ← query (.findPending id taskType)
  match found with
  | none => pure none
  | some task =>
    let acquired ← acquireSystemTaskLock taskType task.taskId runnerId now lockUntil
    match acquired with
    | none => pure none
    | some expiredTaskId =>
      if expiredTaskId ≠ "" ∧ expiredTaskId ≠ task.taskId then do
        let marked ← (markSystemTaskLeaseExpired expiredTaskId).attempt
        match marked with
        | .error reason => giveUp task.taskId runnerId (.error reason)
        | .ok () => setRunning id taskType task runnerId now
      else setRunning id taskType task runnerId now

def updateSystemTaskState (taskId lockedBy state : String) : SystemTaskScript Unit := do
  let now ← query .getTimestamp
  let rows ← query (.updateState taskId lockedBy state now)
  if rows = 0 then fail "system task lock lost" else pure ()

def renewSystemTaskLock (lockUntil : Int) : SystemTaskScript Unit := do
  let now ← query .getTimestamp
  let rows ← query (.renewLock taskId lockedBy now lockUntil)
  if rows = 0 then fail "system task lock lost" else pure ()

def expireLocks (now : Int) : List SystemTaskLock → SystemTaskScript Unit
  | [] => pure ()
  | lock :: rest => do
    markSystemTaskLeaseExpired lock.taskId
    query (.deleteStaleLock lock now)
    expireLocks now rest

def expireStaleSystemTaskLocks (now : Int) : SystemTaskScript Unit := do
  let locks ← query (.findStaleLocks now)
  expireLocks now locks

def finishSystemTask (status : Outcome) (result error : String) : SystemTaskScript Unit := do
  let now ← query .getTimestamp
  let rows ← query (.finishTask taskId lockedBy status result error now)
  if rows = 0 then fail "system task lock lost" else releaseSystemTaskLock taskId lockedBy

end SystemTask

inductive SystemTaskCall where
  | create (taskType taskId payload state : String)
  | claim (id : Int) (taskType runnerId : String) (lockUntil : Int)
  | renew (taskId lockedBy : String) (lockUntil : Int)
  | updateState (taskId lockedBy state : String)
  | finish (taskId lockedBy : String) (status : Outcome) (result error : String)
  | release (taskId lockedBy : String)
  | markExpired (taskId : String)
  | expireStale (now : Int)
deriving DecidableEq

def SystemTaskCall.script : SystemTaskCall → SystemTaskScript (Option SystemTask)
  | .create taskType taskId payload state => (fun _ => none) <$> SystemTask.createSystemTask
      taskType taskId payload state
  | .claim id taskType runnerId lockUntil => SystemTask.claimSystemTask id taskType runnerId lockUntil
  | .renew taskId lockedBy lockUntil => (fun _ => none) <$> SystemTask.renewSystemTaskLock taskId lockedBy lockUntil
  | .updateState taskId lockedBy state => (fun _ => none) <$> SystemTask.updateSystemTaskState taskId lockedBy state
  | .finish taskId lockedBy status result error =>
    (fun _ => none) <$> SystemTask.finishSystemTask taskId lockedBy status result error
  | .release taskId lockedBy => (fun _ => none) <$> SystemTask.releaseSystemTaskLock taskId lockedBy
  | .markExpired taskId => (fun _ => none) <$> SystemTask.markSystemTaskLeaseExpired taskId
  | .expireStale now => (fun _ => none) <$> SystemTask.expireStaleSystemTaskLocks now

inductive SystemTaskEvent where
  | call (id : Nat) (call : SystemTaskCall)
  | advance (id : Nat) (fault : Option String)
  | tick (seconds : Nat)
deriving DecidableEq

abbrev SystemTaskRace :=
  Pool SystemTaskDb SystemTaskCall SystemTaskStatement SystemTaskStatement.Answer String (Option SystemTask)

namespace SystemTaskRace

def start (clock : Int) : SystemTaskRace := Pool.start ⟨Table.empty, Table.empty, clock⟩

def step (race : SystemTaskRace) : SystemTaskEvent → SystemTaskRace
  | .call id call => race.spawn id call call.script
  | .advance id fault => race.advance SystemTaskDb.exec id fault
  | .tick seconds => { race with shared := { race.shared with clock := race.shared.clock + seconds } }

end SystemTaskRace
end NewApi.Model
