import NewApi.Proof.SystemTaskScripts

/-! # Lease safety of system tasks -/

namespace NewApi.Proof
open Library Model SystemTaskRace Table
variable {db : SystemTaskDb} {statement : SystemTaskStatement}

inductive TaskEffect (db : SystemTaskDb) : SystemTaskStatement → SystemTask → SystemTask → Prop
  | kept (statement : SystemTaskStatement) (row : SystemTask) : TaskEffect db statement row row
  | claimed {id type row} (hit : SystemTaskDb.Claimable id type row) (runnerId : String) (now : Int) :
      TaskEffect db (.setRunning id type runnerId now) row
        { row with status := .running, lockedBy := runnerId, updatedAt := now }
  | stated {taskId lockedBy now row} (owned : db.Owned taskId lockedBy now row) (state : String) :
      TaskEffect db (.updateState taskId lockedBy state now) row { row with state := state, updatedAt := now }
  | finished {taskId lockedBy now row} (owned : db.Owned taskId lockedBy now row) (status : Outcome)
      (result error : String) :
      TaskEffect db (.finishTask taskId lockedBy status result error now) row
        { row with status := status, activeKey := none, result := result, error := error, updatedAt := now }
  | expired {row} (running : row.status = .running) (now : Int) : TaskEffect db (.markExpired row.taskId now) row
        { row with status := .failed, activeKey := none, error := "task lease expired", updatedAt := now }

section Effects
variable {old row : SystemTask}

theorem effect_identity (effect : TaskEffect db statement old row) :
    row.id = old.id ∧ row.taskId = old.taskId ∧ row.type = old.type := by
  cases effect <;> exact ⟨rfl, rfl, rfl⟩

theorem effect_key (effect : TaskEffect db statement old row) :
    row.activeKey = old.activeKey ∨ row.activeKey = none := by
  cases effect with
  | finished => exact .inr rfl
  | expired => exact .inr rfl
  | _ => exact .inl rfl

variable {hit : SystemTask → Prop} {f : SystemTask → SystemTask}

theorem effect_of_update [DecidablePred hit] (old : SystemTask)
    (changes : hit old → TaskEffect db statement old (f old)) :
    TaskEffect db statement old (if hit old then f old else old) := by
  split_ifs with does
  · exact changes does
  · exact .kept statement old

structure TasksFollow (db : SystemTaskDb) (statement : SystemTaskStatement) (tasks : Table SystemTask.id) : Prop where
  survives : ∀ old ∈ db.tasks.rows, ∃ row ∈ tasks.rows, TaskEffect db statement old row
  origin : ∀ row ∈ tasks.rows, (∃ old ∈ db.tasks.rows, TaskEffect db statement old row) ∨
    ∃ task, statement = .createTask task ∧ ¬db.taken task ∧ row = { task with id := db.nextTaskId }

theorem tasksFollow_same (db statement) : TasksFollow db statement db.tasks where
  survives old mem := ⟨old, mem, .kept statement old⟩
  origin row mem := .inl ⟨row, mem, .kept statement row⟩

theorem tasksFollow_update [DecidablePred hit]
    (keeps : ∀ row, (f row).id = row.id) (changes : ∀ old, hit old → TaskEffect db statement old (f old)) :
    TasksFollow db statement (db.tasks.updateWhere hit f keeps) where
  survives old mem := ⟨_, mem_updateWhere.mpr ⟨old, mem, rfl⟩, effect_of_update old (changes old)⟩
  origin row mem := by
    obtain ⟨old, present, rfl⟩ := mem_updateWhere.mp mem
    exact .inl ⟨old, present, effect_of_update old (changes old)⟩

theorem answer_tasks (db statement) : TasksFollow db statement (db.answer statement).2.tasks := by
  cases statement with
  | createTask task =>
    simp only [SystemTaskDb.answer]
    split_ifs with taken
    · exact tasksFollow_same db _
    · refine ⟨fun old mem => ⟨old, mem_insert_of_mem mem, .kept _ old⟩, fun row mem => ?_⟩
      rcases mem_insert mem with old | new
      · exact .inl ⟨row, old, .kept _ row⟩
      · exact .inr ⟨task, rfl, taken, new⟩
  | setRunning _ _ runnerId now =>
    refine tasksFollow_update ?_ fun old hit => .claimed hit runnerId now
    exact fun _ => rfl
  | updateState _ _ state =>
    refine tasksFollow_update ?_ fun _ owned => .stated owned state
    exact fun _ => rfl
  | finishTask _ _ status result error =>
    refine tasksFollow_update ?_ fun _ owned => .finished owned status result error
    exact fun _ => rfl
  | markExpired _ now =>
    refine tasksFollow_update ?_ ?_
    · exact fun _ => rfl
    · rintro _ ⟨rfl, running⟩
      exact .expired running now
  | createLock =>
    simp only [SystemTaskDb.answer]
    split <;> exact tasksFollow_same db _
  | _ => exact tasksFollow_same db _

end Effects

theorem exec_answer {id statement fault db after answer}
    (ran : SystemTaskDb.exec id statement fault db = some (answer, after)) :
    (answer = (db.answer statement).1 ∧ after = (db.answer statement).2) ∨
      ((∃ reason, answer = .error reason) ∧ after = db) := by
  cases fault with
  | none =>
    have given := Option.some.inj ran
    exact .inl ⟨(congrArg Prod.fst given).symm, (congrArg Prod.snd given).symm⟩
  | some reason =>
    have given := Option.some.inj ran
    split_ifs at given with clock
    · exact .inl ⟨(congrArg Prod.fst given).symm, (congrArg Prod.snd given).symm⟩
    · exact .inr ⟨⟨reason, (congrArg Prod.fst given).symm⟩, (congrArg Prod.snd given).symm⟩

theorem step_tables (race : SystemTaskRace) (event : SystemTaskEvent) :
    ((race.step event).shared.tasks = race.shared.tasks ∧ (race.step event).shared.locks = race.shared.locks) ∨
    ∃ id fault call past statement next, event = .advance id fault ∧
      race.threads id = some ⟨call, past, .call statement next⟩ ∧
      (race.step event).shared = (race.shared.answer statement).2 := by
  cases event with
  | call id call =>
    rcases Pool.spawn_cases race id call call.script with same | ⟨-, spawned⟩
    · exact .inl (by simp [step, same])
    · exact .inl (by simp [step, spawned])
  | tick => exact .inl ⟨rfl, rfl⟩
  | advance id fault =>
    rcases Pool.advance_cases SystemTaskDb.exec race id fault with
      same | ⟨call, past, statement, next, answer, after, thread, ran, advanced⟩
    · exact .inl (by simp [step, same])
    · rcases exec_answer ran with ⟨-, rfl⟩ | ⟨-, rfl⟩
      · exact .inr ⟨id, fault, call, past, statement, next, rfl, thread, by simp [step, advanced]⟩
      · exact .inl (by simp [step, advanced])

structure TasksSound (db : SystemTaskDb) : Prop where
  keyed : ∀ task ∈ db.tasks.rows, task.status.active → task.activeKey = some task.type
  keys : ∀ a ∈ db.tasks.rows, ∀ b ∈ db.tasks.rows, a.activeKey ≠ none → a.activeKey = b.activeKey → a = b
  taskIds : ∀ a ∈ db.tasks.rows, ∀ b ∈ db.tasks.rows, a.taskId = b.taskId → a = b

section Sound

theorem effect_keyed {old row} (keyed : old.status.active → old.activeKey = some old.type)
    (effect : TaskEffect db statement old row) : row.status.active → row.activeKey = some row.type := by
  intro active
  cases effect with
  | kept => exact keyed active
  | claimed hit => exact keyed (.inl hit.2.2)
  | stated => exact keyed active
  | finished _ status =>
    obtain ⟨status, succeeded | failed⟩ := status
    · simp [SystemTaskStatus.active, succeeded] at active
    · simp [SystemTaskStatus.active, failed] at active
  | expired => simp [SystemTaskStatus.active] at active

theorem tasksSound_answer (sound : TasksSound db)
    (creates : ∀ task, statement = .createTask task → task.status = .pending ∧ task.activeKey = some task.type) :
    TasksSound (db.answer statement).2 := by
  have origin := (answer_tasks db statement).origin
  refine ⟨fun row mem => ?_, fun a memberA b memberB some same => ?_, fun a memberA b memberB same => ?_⟩
  · rcases origin row mem with ⟨old, present, effect⟩ | ⟨task, rfl, -, rfl⟩
    · exact effect_keyed (sound.keyed old present) effect
    · exact fun _ => (creates task rfl).2
  · rcases origin a memberA with ⟨oldA, presentA, effectA⟩ | ⟨_, rfl, fresh, rfl⟩
    · have keyA := (effect_key effectA).resolve_right some
      rcases origin b memberB with ⟨oldB, presentB, effectB⟩ | ⟨_, rfl, fresh, rfl⟩
      · have keyB := (effect_key effectB).resolve_right (same ▸ some)
        have equal := sound.keys oldA presentA oldB presentB (keyA ▸ some) (by rw [← keyA, ← keyB, same])
        refine eq_of_key memberA memberB ?_
        rw [(effect_identity effectA).1, (effect_identity effectB).1, equal]
      · exact absurd ⟨oldA, presentA, .inr ⟨same ▸ some, by rw [← keyA, same]⟩⟩ fresh
    · rcases origin b memberB with ⟨oldB, presentB, effectB⟩ | ⟨_, created, -, rfl⟩
      · have keyB := (effect_key effectB).resolve_right (same ▸ some)
        exact absurd ⟨oldB, presentB, .inr ⟨some, by rw [← keyB, same]⟩⟩ fresh
      · cases created
        rfl
  · rcases origin a memberA with ⟨oldA, presentA, effectA⟩ | ⟨_, rfl, fresh, rfl⟩
    · rcases origin b memberB with ⟨oldB, presentB, effectB⟩ | ⟨_, rfl, fresh, rfl⟩
      · have equal := sound.taskIds oldA presentA oldB presentB
          (by rw [← (effect_identity effectA).2.1, ← (effect_identity effectB).2.1, same])
        refine eq_of_key memberA memberB ?_
        rw [(effect_identity effectA).1, (effect_identity effectB).1, equal]
      · exact absurd ⟨oldA, presentA, .inl (by rw [← (effect_identity effectA).2.1, same])⟩ fresh
    · rcases origin b memberB with ⟨oldB, presentB, effectB⟩ | ⟨_, created, -, rfl⟩
      · exact absurd ⟨oldB, presentB, .inl (by rw [← (effect_identity effectB).2.1, ← same])⟩ fresh
      · cases created
        rfl

theorem one_active (sound : TasksSound db) {a b} (memberA : a ∈ db.tasks.rows) (memberB : b ∈ db.tasks.rows)
    (same : a.type = b.type) (activeA : a.status.active) (activeB : b.status.active) : a = b := by
  have keyA := sound.keyed a memberA activeA
  have keyB := sound.keyed b memberB activeB
  exact sound.keys a memberA b memberB (by simp [keyA]) (by rw [keyA, keyB, same])

end Sound

structure RaceSound (race : SystemTaskRace) : Prop where
  conforming : race.Conforming TaskMayRun TaskReturns
  lawful : race.Lawful TaskMayRun
  tasks : TasksSound race.shared

theorem raceSound_start (clock : Int) : RaceSound (start clock) where
  conforming := Pool.conforming_start _
  lawful := Pool.lawful_start _
  tasks := ⟨by simp [SystemTaskRace.start, Pool.start,
    Table.empty], by simp [SystemTaskRace.start, Pool.start, Table.empty],
    by simp [SystemTaskRace.start, Pool.start, Table.empty]⟩

theorem raceSound_step (race : SystemTaskRace) (event : SystemTaskEvent) (sound : RaceSound race) : RaceSound (race.step event) := by
  have tasks : TasksSound (race.step event).shared := by
    rcases step_tables race event with ⟨same, -⟩ | ⟨id, _, _, _, _, _, -, thread, after⟩
    · exact ⟨by rw [same]; exact sound.tasks.keyed, by rw [same]; exact sound.tasks.keys, by rw [same]; exact sound.tasks.taskIds⟩
    · rw [after]
      refine tasksSound_answer sound.tasks ?_
      rintro _ rfl
      exact (sound.conforming id _ thread).1
  cases event with
  | call id call =>
    exact ⟨Pool.conforming_spawn sound.conforming (taskRuns_call call) id,
      Pool.lawful_spawn sound.lawful id call _, tasks⟩
  | advance id fault =>
    exact ⟨Pool.conforming_advance sound.conforming _ id fault,
      Pool.lawful_advance sound.conforming sound.lawful _ id fault, tasks⟩
  | tick => exact ⟨sound.conforming, sound.lawful, tasks⟩

def writer : SystemTaskCall → Option (String × String)
  | .updateState taskId lockedBy _ => some (taskId, lockedBy)
  | .finish taskId lockedBy _ _ _ => some (taskId, lockedBy)
  | _ => none

def Guarded (race : SystemTaskRace) (event : SystemTaskEvent) : Prop :=
  ∀ task ∈ race.shared.tasks.rows, ∀ after ∈ (race.step event).shared.tasks.rows, after.id = task.id →
    after.state ≠ task.state ∨ after.result ≠ task.result →
    ∃ id fault thread runner now, event = .advance id fault ∧ race.threads id = some thread ∧
      writer thread.call = some (task.taskId, runner) ∧ Began thread.past now ∧
      ∃ lock ∈ race.shared.locks.rows, lock.taskId = task.taskId ∧ lock.lockedBy = runner ∧ now ≤ lock.lockedUntil

structure LeaseSafe (race : SystemTaskRace) : Prop where
  oneActive : ∀ a ∈ race.shared.tasks.rows, ∀ b ∈ race.shared.tasks.rows, a.type = b.type →
    a.status.active → b.status.active → a = b
  oneHolder : ∀ a ∈ race.shared.locks.rows, ∀ b ∈ race.shared.locks.rows, a.type = b.type →
    race.shared.clock ≤ a.lockedUntil → race.shared.clock ≤ b.lockedUntil → a.lockedBy = b.lockedBy
  guarded : ∀ event, Guarded race event
  terminal : ∀ event, ∀ task ∈ race.shared.tasks.rows, task.status.terminal →
    ∃ after ∈ (race.step event).shared.tasks.rows, after.id = task.id ∧ after.status = task.status

section Safe
variable {race : SystemTaskRace}

theorem effect_terminal {db statement old row}
    (effect : TaskEffect db statement old row) (terminal : old.status.terminal) : row.status = old.status := by
  cases effect with
  | kept => rfl
  | claimed hit => simp [SystemTaskStatus.terminal, hit.2.2] at terminal
  | stated => rfl
  | finished owned => simp [SystemTaskStatus.terminal, owned.1.2.1] at terminal
  | expired running => simp [SystemTaskStatus.terminal, running] at terminal

theorem guarded_of_sound (sound : RaceSound race) (event : SystemTaskEvent) : Guarded race event := by
  intro task mem _ present same changed
  rcases step_tables race event with ⟨tasks, -⟩ | ⟨id, fault, call, past, statement, _, rfl, thread, shared⟩
  · rw [tasks] at present
    cases eq_of_key present mem same
    simp at changed
  · have may : TaskMayRun call past statement := (sound.conforming id _ thread).1
    obtain ⟨_, found, effect⟩ := (answer_tasks race.shared statement).survives task mem
    rw [shared] at present
    obtain rfl := eq_of_key present found (same.trans (effect_identity effect).1.symm)
    cases effect with
    | kept => simp at changed
    | claimed => simp at changed
    | expired => simp at changed
    | stated owned _ | finished owned _ _ _ =>
      obtain ⟨⟨rfl, -, -⟩, lock, held, of, by', fresh⟩ := owned
      obtain ⟨rfl, began⟩ := may
      exact ⟨id, fault, _, _, _, rfl, thread, rfl, began, lock, held, of, by', fresh⟩

theorem leaseSafe_of_sound (sound : RaceSound race) : LeaseSafe race where
  oneActive a memberA b memberB same activeA activeB := one_active sound.tasks memberA memberB same activeA activeB
  oneHolder a memberA b memberB same _ _ := by rw [eq_of_key memberA memberB same]
  guarded := guarded_of_sound sound
  terminal event task mem terminal := by
    rcases step_tables race event with ⟨tasks, -⟩ | ⟨_, _, _, _, statement, _, -, -, shared⟩
    · rw [tasks]
      exact ⟨task, mem, rfl, rfl⟩
    · obtain ⟨row, present, effect⟩ := (answer_tasks race.shared statement).survives task mem
      rw [shared]
      exact ⟨row, present, (effect_identity effect).1, effect_terminal effect terminal⟩

end Safe

theorem lease_safety (clock : Int) (events : List SystemTaskEvent) : LeaseSafe (run step (start clock) events) :=
  leaseSafe_of_sound (run_preserves RaceSound raceSound_step (raceSound_start clock) events)

def claimedEvents : List SystemTaskEvent :=
  [.call 0 (.create "poll" "task" "" ""), .advance 0 none, .advance 0 none, .call 1 (.claim 1 "poll" "runner" 60)] ++
    List.replicate 5 (.advance 1 none)

def lateEvents : List SystemTaskEvent :=
  claimedEvents ++ [.call 2 (.updateState "task" "runner" "progress"), .advance 2 none, .tick 61]

theorem state_written_after_expiry : (∀ lock ∈ (run step (start 0) lateEvents).shared.locks.rows,
      lock.lockedUntil < (run step (start 0) lateEvents).shared.clock) ∧
    (run step (start 0) lateEvents).shared.tasks.rows.map SystemTask.state = [""] ∧
    (run step (start 0) (lateEvents ++ [.advance 2 none])).shared.tasks.rows.map SystemTask.state = ["progress"] := by
  refine ⟨?_, ?_, ?_⟩ <;> decide +kernel

end NewApi.Proof
