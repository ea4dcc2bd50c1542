import NewApi.Proof.SystemTaskLease

/-! # What a statement does to locks and tasks -/

namespace NewApi.Proof
open Library Model SystemTaskDb Table List
variable {db after : SystemTaskDb} {statement : SystemTaskStatement}

inductive LockFate (after : SystemTaskDb) : SystemTaskStatement → SystemTaskLock → Prop
  | kept {statement lock} (member : lock ∈ after.locks.rows) : LockFate after statement lock
  | takenOver {lock taker now} (same : lock.type = taker.type) (expired : lock.lockedUntil < now) :
      LockFate after (.takeOverLock taker now) lock
  | renewed {lock now lockUntil}
      (member : { lock with lockedUntil := lockUntil, updatedAt := now } ∈ after.locks.rows) :
      LockFate after (.renewLock lock.taskId lock.lockedBy now lockUntil) lock
  | deleted {lock stale now} (same : stale.taskId = lock.taskId) (expired : lock.lockedUntil < now) :
      LockFate after (.deleteStaleLock stale now) lock
  | released {lock} : LockFate after (.releaseLock lock.taskId lock.lockedBy) lock

section Locks
variable {lock : SystemTaskLock}

theorem lock_fate (statement) (mem : lock ∈ db.locks.rows) : LockFate (db.answer statement).2 statement lock := by
  cases statement with
  | createTask =>
    simp only [answer]
    split_ifs <;> exact .kept mem
  | createLock =>
    simp only [answer]
    split
    · exact .kept mem
    · exact .kept (mem_insert_of_mem mem)
  | takeOverLock taker now =>
    by_cases hit : lock.type = taker.type ∧ lock.lockedUntil < now
    · exact .takenOver hit.1 hit.2
    · exact .kept (mem_map.mpr ⟨lock, mem, if_neg hit⟩)
  | renewLock taskId lockedBy now =>
    by_cases hit : SystemTaskDb.Renewable taskId lockedBy now lock
    · obtain ⟨rfl, rfl, fresh⟩ := hit
      exact .renewed (mem_map.mpr ⟨lock, mem, if_pos ⟨rfl, rfl, fresh⟩⟩)
    · exact .kept (mem_map.mpr ⟨lock, mem, if_neg hit⟩)
  | deleteStaleLock stale now =>
    by_cases hit : lock.type = stale.type ∧ lock.taskId = stale.taskId ∧
      lock.lockedBy = stale.lockedBy ∧ lock.lockedUntil < now
    · exact .deleted hit.2.1.symm hit.2.2.2
    · exact .kept (mem_deleteWhere.mpr ⟨mem, hit⟩)
  | releaseLock taskId lockedBy =>
    by_cases hit : lock.taskId = taskId ∧ lock.lockedBy = lockedBy
    · obtain ⟨rfl, rfl⟩ := hit
      exact .released
    · exact .kept (mem_deleteWhere.mpr ⟨mem, hit⟩)
  | _ => exact .kept mem

theorem lock_taken {statement} (answered : Took [⟨statement, (db.answer statement).1⟩] lock) :
    lock ∈ (db.answer statement).2.locks.rows := by
  rcases answered with created | ⟨now, rows, some, taken⟩
  · obtain ⟨rfl, same⟩ := Sigma.mk.inj (mem_singleton.mp created)
    simp only [answer] at same ⊢
    split at same
    · cases same
    · next free =>
        change lock ∈ (db.locks.insert lock).rows
        rw [insert_rows free]
        simp
  · obtain ⟨rfl, same⟩ := Sigma.mk.inj (mem_singleton.mp taken)
    cases same
    obtain ⟨row, mem, hit⟩ : ∃ row ∈ db.locks.rows, row.type = lock.type ∧ row.lockedUntil < now := by
      by_contra none
      exact some (countWhere_eq_zero.mpr fun row mem hit => none ⟨row, mem, hit⟩)
    refine mem_map.mpr ⟨row, mem, ?_⟩
    rw [if_pos hit]
    simp only [hit.1]

end Locks

structure TasksGrow (db after : SystemTaskDb) : Prop where
  clock : db.clock ≤ after.clock
  rows : ∀ old ∈ db.tasks.rows, ∃ row ∈ after.tasks.rows,
    (row.id = old.id ∧ row.taskId = old.taskId ∧ row.type = old.type) ∧
    (old.status ≠ .pending → row.status ≠ .pending) ∧ (old.status.terminal → row.status.terminal)

structure TaskThread (db : SystemTaskDb) (call : SystemTaskCall) (past : SystemTaskPast) : Prop where
  began : ∀ now, Began past now → now ≤ db.clock
  cleanup : ∀ now, call = .expireStale now → now ≤ db.clock
  known : ∀ id type task, Selected past id type task → ∃ row ∈ db.tasks.rows, row.id = id ∧
    row.taskId = task.taskId ∧ row.type = type
  read : ∀ id task, ⟨.findTask id, .ok (some task)⟩ ∈ past → ∃ row ∈ db.tasks.rows, row.id = id ∧
    row.taskId = task.taskId
  claimed : ∀ id type runnerId lockUntil, call = .claim id type runnerId lockUntil → SetRunning past →
    ∃ row ∈ db.tasks.rows, row.id = id ∧ row.status ≠ .pending
  finished : ∀ taskId lockedBy status result error now rows, rows ≠ 0 →
    ⟨.finishTask taskId lockedBy status result error now, .ok rows⟩ ∈ past →
      ∃ row ∈ db.tasks.rows, row.taskId = taskId ∧ row.status.terminal

section Threads
variable {call : SystemTaskCall} {past : SystemTaskPast}

theorem answer_clock (db : SystemTaskDb) (statement : SystemTaskStatement) :
    (db.answer statement).2.clock = db.clock := by
  cases statement with
  | createTask =>
    simp only [answer]
    split_ifs <;> rfl
  | createLock =>
    simp only [answer]
    split <;> rfl
  | _ => rfl

theorem effect_pending {old row} (effect : TaskEffect db statement old row) (started : old.status ≠ .pending) :
    row.status ≠ .pending := by
  cases effect with
  | kept => exact started
  | claimed => simp
  | stated => exact started
  | finished _ status =>
    obtain ⟨status, succeeded | failed⟩ := status
    · simp [succeeded]
    · simp [failed]
  | expired => simp

theorem tasksGrow_answer (db : SystemTaskDb) (statement : SystemTaskStatement) :
    TasksGrow db (db.answer statement).2 where
  clock := (answer_clock db statement).ge
  rows old mem := by
    obtain ⟨row, present, effect⟩ := (answer_tasks db statement).survives old mem
    refine ⟨row, present, effect_identity effect, effect_pending effect, fun terminal => ?_⟩
    rw [effect_terminal effect terminal]
    exact terminal

theorem taskThread_grow (thread : TaskThread db call past) (grow : TasksGrow db after) :
    TaskThread after call past where
  began now began := (thread.began now began).trans grow.clock
  cleanup now same := (thread.cleanup now same).trans grow.clock
  known id type task selected := by
    obtain ⟨old, mem, sameId, sameTask, sameType⟩ := thread.known id type task selected
    obtain ⟨row, present, ⟨ids, taskIds, types⟩, -⟩ := grow.rows old mem
    exact ⟨row, present, ids.trans sameId, taskIds.trans sameTask, types.trans sameType⟩
  read id task mem := by
    obtain ⟨old, mem, sameId, sameTask⟩ := thread.read id task mem
    obtain ⟨row, present, ⟨ids, taskIds, -⟩, -⟩ := grow.rows old mem
    exact ⟨row, present, ids.trans sameId, taskIds.trans sameTask⟩
  claimed id type runnerId lockUntil same running := by
    obtain ⟨old, mem, sameId, started⟩ := thread.claimed id type runnerId lockUntil same running
    obtain ⟨row, present, ⟨ids, -⟩, starts, -⟩ := grow.rows old mem
    exact ⟨row, present, ids.trans sameId, starts started⟩
  finished taskId lockedBy status result error now rows some mem := by
    obtain ⟨old, mem, sameTask, terminal⟩ := thread.finished taskId lockedBy status result error now rows some mem
    obtain ⟨row, present, ⟨-, taskIds, -⟩, -, stays⟩ := grow.rows old mem
    exact ⟨row, present, taskIds.trans sameTask, stays terminal⟩

theorem began_append {answer now} (began : Began (past ++ [⟨statement, answer⟩]) now) :
    Began past now ∨
      (past = [] ∧ (⟨statement, answer⟩ : Entry SystemTaskStatement SystemTaskStatement.Answer
      String) = ⟨.getTimestamp, .ok now⟩) := by
  cases past with
  | nil => exact .inr ⟨rfl, Option.some.inj began⟩
  | cons => exact .inl began

theorem taskThread_answer (thread : TaskThread db call past) (may : TaskMayRun call past statement) :
    TaskThread (db.answer statement).2 call (past ++ [⟨statement, (db.answer statement).1⟩]) := by
  have kept := taskThread_grow thread (tasksGrow_answer db statement)
  refine ⟨fun now began => ?_, kept.cleanup, fun id type task selected => ?_, fun id task mem => ?_,
    fun id type runnerId lockUntil same running => ?_, fun taskId lockedBy status result error now rows some mem => ?_⟩
  · rcases began_append began with old | ⟨-, new⟩
    · exact kept.began now old
    · cases new
      exact le_rfl
  · rcases mem_past selected with old | new
    · exact kept.known id type task old
    · obtain ⟨rfl, same⟩ := Sigma.mk.inj new
      have found := Except.ok.inj (eq_of_heq same).symm
      have claimable : SystemTaskDb.Claimable id type task := by simpa using find?_some found
      exact ⟨task, mem_of_find?_eq_some found, claimable.1, rfl, claimable.2.1⟩
  · rcases mem_past mem with old | new
    · exact kept.read id task old
    · obtain ⟨rfl, same⟩ := Sigma.mk.inj new
      obtain ⟨present, sameId⟩ := find?_eq_some.mp (Except.ok.inj (eq_of_heq same).symm)
      exact ⟨task, present, sameId, rfl⟩
  · obtain ⟨rowId, rowType, runner, now, rows, some, mem⟩ := running
    rcases mem_past mem with old | new
    · exact kept.claimed id type runnerId lockUntil same ⟨rowId, rowType, runner, now, rows, some, old⟩
    · obtain ⟨rfl, answered⟩ := Sigma.mk.inj new
      obtain rfl : rows = db.tasks.countWhere (SystemTaskDb.Claimable rowId rowType) :=
        Except.ok.inj (eq_of_heq answered)
      obtain ⟨row, present, hit⟩ : ∃ row ∈ db.tasks.rows, SystemTaskDb.Claimable rowId rowType row := by
        by_contra none
        exact some (countWhere_eq_zero.mpr fun row mem hit => none ⟨row, mem, hit⟩)
      obtain ⟨_, _, -, claim, -⟩ := may
      cases same.symm.trans claim
      refine ⟨_, mem_map.mpr ⟨row, present, if_pos hit⟩, hit.1, by simp⟩
  · rcases mem_past mem with old | new
    · exact kept.finished taskId lockedBy status result error now rows some old
    · obtain ⟨rfl, answered⟩ := Sigma.mk.inj new
      obtain rfl : rows = db.tasks.countWhere (db.Owned taskId lockedBy now) := Except.ok.inj (eq_of_heq answered)
      obtain ⟨row, present, hit⟩ : ∃ row ∈ db.tasks.rows, db.Owned taskId lockedBy now row := by
        by_contra none
        exact some (countWhere_eq_zero.mpr fun row mem hit => none ⟨row, mem, hit⟩)
      refine ⟨_, mem_map.mpr ⟨row, present, if_pos hit⟩, hit.1.1, status.2⟩

end Threads

def RanStatement (db : SystemTaskDb) (statement : SystemTaskStatement) (answer : Except String statement.Answer)
    (after : SystemTaskDb) : Prop :=
  (answer = (db.answer statement).1 ∧ after = (db.answer statement).2) ∨
    ((∃ reason, answer = .error reason) ∧ after = db)

section Statement
variable {answer : Except String statement.Answer}

variable (ran : RanStatement db statement answer after)

include ran

theorem ran_clock : after.clock = db.clock := by
  rcases ran with ⟨-, rfl⟩ | ⟨-, rfl⟩
  · exact answer_clock db statement
  · rfl

theorem ran_grow : TasksGrow db after := by
  rcases ran with ⟨-, rfl⟩ | ⟨-, rfl⟩
  · exact tasksGrow_answer db statement
  · exact ⟨le_rfl, fun old mem => ⟨old, mem, ⟨rfl, rfl, rfl⟩, id, id⟩⟩

theorem ran_thread {call past} (thread : TaskThread db call past) (may : TaskMayRun call past statement) :
    TaskThread after call (past ++ [⟨statement, answer⟩]) := by
  rcases ran with ⟨rfl, rfl⟩ | ⟨⟨reason, rfl⟩, rfl⟩
  · exact taskThread_answer thread may
  · have old {entry : Entry SystemTaskStatement SystemTaskStatement.Answer String} (ok : ∃ result, entry.2 = .ok result)
        (mem : entry ∈ past ++ [⟨statement, .error reason⟩]) : entry ∈ past := by
      rcases mem_past mem with before | rfl
      · exact before
      · obtain ⟨_, same⟩ := ok
        cases same
    refine ⟨fun now began => ?_, thread.cleanup, fun id type task selected =>
      thread.known id type task (old ⟨_, rfl⟩ selected),
      fun id task mem => thread.read id task (old ⟨_, rfl⟩ mem), ?_,
      fun taskId lockedBy status result error now rows some mem =>
        thread.finished taskId lockedBy status result error now rows some (old ⟨_, rfl⟩ mem)⟩
    · rcases began_append began with before | ⟨-, new⟩
      · exact thread.began now before
      · obtain ⟨rfl, same⟩ := Sigma.mk.inj new
        cases same
    · rintro id type runnerId lockUntil same ⟨rowId, rowType, runner, now, rows, some, mem⟩
      exact thread.claimed id type runnerId lockUntil same ⟨rowId, rowType, runner, now, rows, some, old ⟨_, rfl⟩ mem⟩

theorem ran_fate {lock} (mem : lock ∈ db.locks.rows) : LockFate after statement lock := by
  rcases ran with ⟨-, rfl⟩ | ⟨-, rfl⟩
  · exact lock_fate statement mem
  · exact .kept mem

theorem ran_took {lock} (took : Took [⟨statement, answer⟩] lock) : lock ∈ after.locks.rows := by
  rcases ran with ⟨rfl, rfl⟩ | ⟨⟨_, rfl⟩, rfl⟩
  · exact lock_taken took
  · rcases took with created | ⟨now, rows, -, taken⟩
    · obtain ⟨rfl, same⟩ := Sigma.mk.inj (mem_singleton.mp created)
      cases same
    · obtain ⟨rfl, same⟩ := Sigma.mk.inj (mem_singleton.mp taken)
      cases same

theorem ran_selected {id type task}
    (selected : Selected [⟨statement, answer⟩] id type task) :
    task ∈ db.tasks.rows ∧ SystemTaskDb.Claimable id type task := by
  obtain ⟨rfl, same⟩ := Sigma.mk.inj (mem_singleton.mp selected)
  rcases ran with ⟨answered, -⟩ | ⟨⟨_, failed⟩, -⟩
  · have found := Except.ok.inj ((eq_of_heq same).trans answered).symm
    exact ⟨mem_of_find?_eq_some found, by simpa using find?_some found⟩
  · cases failed.symm.trans (eq_of_heq same).symm

theorem ran_marked {taskId marked}
    (mark : (⟨.markExpired taskId marked, .ok ()⟩ : Entry SystemTaskStatement
    SystemTaskStatement.Answer String) = ⟨statement, answer⟩)
    {row} (mem : row ∈ after.tasks.rows) (same : row.taskId = taskId) : row.status ≠ .running := by
  obtain ⟨rfl, answered⟩ := Sigma.mk.inj mark
  rcases ran with ⟨-, rfl⟩ | ⟨⟨_, failed⟩, -⟩
  · obtain ⟨_, -, rfl⟩ := mem_map.mp mem
    split_ifs at same ⊢ with hit
    · simp
    · exact fun running => hit ⟨same, running⟩
  · cases failed.symm.trans (eq_of_heq answered).symm

theorem ran_running
    (creates : ∀ task, statement = .createTask task → task.status = .pending) {row} (mem : row ∈ after.tasks.rows)
    (running : row.status = .running) :
    (∃ old ∈ db.tasks.rows, old.status = .running ∧ old.taskId = row.taskId ∧ old.type = row.type ∧
      old.lockedBy = row.lockedBy) ∨
    ∃ id type runnerId now, statement = .setRunning id type runnerId now ∧ SetRunning [⟨statement, answer⟩] ∧
      ∃ old ∈ db.tasks.rows, SystemTaskDb.Claimable id type old ∧ old.id = row.id ∧
        old.taskId = row.taskId ∧ old.type = row.type ∧
        row.lockedBy = runnerId := by
  rcases ran with ⟨rfl, rfl⟩ | ⟨-, rfl⟩
  · rcases (answer_tasks db statement).origin row mem with ⟨old, present, effect⟩ | ⟨task, rfl, -, rfl⟩
    · cases effect with
      | kept => exact .inl ⟨row, present, running, rfl, rfl, rfl⟩
      | claimed hit runnerId now =>
        refine .inr ⟨_, _, runnerId, now, rfl, ⟨_, _, runnerId, now, _, ?_, mem_singleton.mpr rfl⟩,
          old, present, hit, rfl, rfl, rfl, rfl⟩
        exact fun none => countWhere_eq_zero.mp none old present hit
      | stated => exact .inl ⟨old, present, running, rfl, rfl, rfl⟩
      | finished _ status =>
        obtain ⟨status, succeeded | failed⟩ := status
        · simp [succeeded] at running
        · simp [failed] at running
      | expired => simp at running
    · cases running.symm.trans (creates task rfl)
  · exact .inl ⟨row, mem, running, rfl, rfl, rfl⟩

end Statement

end NewApi.Proof
