import NewApi.Proof.BillingStore
import NewApi.Service.TaskPolling

/-! # What a step of the polling subsystem can do -/

namespace NewApi.Proof
open Library Model Service PollState Db Table

/-! ## Programs on the table of tasks -/

def Won (tasks : TaskTable) (task : Task) (fromStatus : TaskStatus) (after : TaskTable) : Prop :=
  ∃ row, tasks.find? task.id = some row ∧ row.status = fromStatus ∧ after = tasks.save task

def DueFor (copy : Task) (due : Option TaskBilling) : Prop :=
  match copy.status with
  | .failure => due = if copy.quota ≠ 0 then some .refund else none
  | .success => ∃ totalTokens, due = some (.settle totalTokens)
  | _ => due = none

structure SameTask (task copy : Task) : Prop where
  id : copy.id = task.id
  platform : copy.platform = task.platform
  upstream : copy.getUpstreamTaskID = task.getUpstreamTaskID
  account : taskAccount copy = taskAccount task

def VideoUpdated (tasks : TaskTable) (task copy : Task) (due : Option TaskBilling) (after : TaskTable) : Prop :=
  (after = tasks ∧ due = none) ∨ (Won tasks copy task.status after ∧ DueFor copy due) ∨
    (after = tasks ∧ copy.status = task.status ∧ DueFor copy due)

def Closed (ids : List Int) (tasks after : TaskTable) : Prop :=
  after = tasks ∨ ∃ failReason, ∀ id, after.find? id =
    (tasks.find? id).map fun row => if id ∈ ids then row.closed failReason else row

section Programs
variable {env : TaskPollingEnv} {now : Int} {task : Task} {faults : Faults Unit String} {tasks after : TaskTable}

theorem attempt_updateWithStatus {fromStatus result}
    (ran : attempt (task.updateWithStatus fromStatus) faults tasks = (result, after)) :
    (result = .ok (.ok true) ∧ Won tasks task fromStatus after) ∨
      ((∃ answer, result = .ok answer ∧ answer ≠ .ok true) ∧ after = tasks) := by
  unfold Task.updateWithStatus Db.attempt Db.statement at ran
  cases fault : faults () with
  | some =>
    simp only [fault, Prod.mk.injEq] at ran
    exact .inr ⟨⟨_, ran.1.symm, by simp⟩, ran.2.symm⟩
  | none =>
    cases found : tasks.find? task.id with
    | none =>
      simp only [fault, found, Prod.mk.injEq] at ran
      exact .inr ⟨⟨_, ran.1.symm, by simp⟩, ran.2.symm⟩
    | some row =>
      by_cases same : row.status = fromStatus
      · simp only [fault, found, same, if_true, Prod.mk.injEq] at ran
        exact .inl ⟨ran.1.symm, row, found, same, ran.2.symm⟩
      · simp only [fault, found, same, if_false, Prod.mk.injEq] at ran
        exact .inr ⟨⟨_, ran.1.symm, by simp⟩, ran.2.symm⟩

theorem sweepTimedOutTask_cases {result} (ran : sweepTimedOutTask env now task faults tasks = (result, after)) :
    ∃ due, result = .ok (timedOut env now task, due) ∧ ((due = none ∧ after = tasks) ∨
        (Won tasks (timedOut env now task) task.status after ∧
          due = if !isLegacy task && task.quota != 0 then some .refund else none)) := by
  unfold sweepTimedOutTask at ran
  rcases updated : attempt ((timedOut env now task).updateWithStatus task.status) faults tasks with ⟨answer, _⟩
  rw [bind_apply, updated] at ran
  rcases attempt_updateWithStatus updated with ⟨rfl, won⟩ | ⟨⟨answer, rfl, lost⟩, rfl⟩
  · obtain ⟨rfl, rfl⟩ := pure_eq.mp ran
    exact ⟨_, rfl, .inr ⟨won, rfl⟩⟩
  · rcases answer with reason | _ | _
    · obtain ⟨rfl, rfl⟩ := pure_eq.mp ran
      exact ⟨none, rfl, .inl ⟨rfl, rfl⟩⟩
    · obtain ⟨rfl, rfl⟩ := pure_eq.mp ran
      exact ⟨none, rfl, .inl ⟨rfl, rfl⟩⟩
    · exact absurd rfl lost

theorem applyResult_same {info updated} (applied : applyResult env now task info = some updated) :
    SameTask task updated ∧ updated.quota = task.quota ∧ DueFor updated (billingDue task info) := by
  unfold applyResult at applied
  cases status : info.status with
  | notStart => simp [status] at applied
  | unknown => simp [status] at applied
  | other => simp [status] at applied
  | submitted | queued | inProgress | success | failure =>
    simp only [status, Option.some.injEq] at applied
    subst applied
    exact ⟨⟨rfl, rfl, rfl, rfl⟩, rfl, by simp [DueFor, billingDue, status]⟩

theorem dueFor_open {copy due} (notDone : copy.status.isDone = false) (dueFor : DueFor copy due) : due = none := by
  unfold DueFor at dueFor
  cases status : copy.status with
  | failure | success => simp [status, TaskStatus.isDone] at notDone
  | _ => simpa [status] using dueFor

theorem videoUpdated_kept {copy due}
    (open_ : ¬(copy.status.isDone = true ∧ task.status ≠ copy.status)) (dueFor : DueFor copy due) :
    VideoUpdated tasks task copy due tasks := by
  by_cases done : copy.status.isDone = true
  · exact .inr (.inr ⟨rfl, not_not.mp fun other => open_ ⟨done, Ne.symm other⟩, dueFor⟩)
  · exact .inl ⟨rfl, dueFor_open (Bool.not_eq_true _ ▸ done) dueFor⟩

theorem updateVideoSingleTask_cases {reply result}
    (ran : updateVideoSingleTask env now task reply faults tasks = (result, after)) :
    ∃ copy due, result = .ok (copy, due) ∧ SameTask task copy ∧ copy.quota = task.quota ∧
      VideoUpdated tasks task copy due after := by
  unfold updateVideoSingleTask at ran
  dsimp only at ran
  cases meant : reply.taskResult with
  | none =>
    simp only [meant] at ran
    obtain ⟨rfl, rfl⟩ := pure_eq.mp ran
    exact ⟨_, none, rfl, ⟨rfl, rfl, rfl, rfl⟩, rfl, .inl ⟨rfl, rfl⟩⟩
  | some info =>
    simp only [meant] at ran
    cases applied : applyResult env now { task with data := reply.data } info with
    | none =>
      simp only [applied] at ran
      obtain ⟨rfl, rfl⟩ := pure_eq.mp ran
      exact ⟨_, none, rfl, ⟨rfl, rfl, rfl, rfl⟩, rfl, .inl ⟨rfl, rfl⟩⟩
    | some updated =>
      simp only [applied] at ran
      obtain ⟨⟨id, platform, upstream, account⟩, quota, dueFor⟩ := applyResult_same applied
      have same : SameTask task updated := ⟨id, platform, upstream, account⟩
      have due : DueFor updated (billingDue task info) := dueFor
      split_ifs at ran with closes changed
      · rcases tried : attempt (updated.updateWithStatus task.status) faults tasks with ⟨answer, _⟩
        rw [bind_apply, tried] at ran
        rcases attempt_updateWithStatus tried with ⟨rfl, won⟩ | ⟨⟨answer, rfl, lost⟩, rfl⟩
        · obtain ⟨rfl, rfl⟩ := pure_eq.mp ran
          exact ⟨_, _, rfl, same, quota, .inr (.inl ⟨won, due⟩)⟩
        · rcases answer with reason | _ | _
          · obtain ⟨rfl, rfl⟩ := pure_eq.mp ran
            exact ⟨_, none, rfl, same, quota, .inl ⟨rfl, rfl⟩⟩
          · obtain ⟨rfl, rfl⟩ := pure_eq.mp ran
            exact ⟨_, none, rfl, same, quota, .inl ⟨rfl, rfl⟩⟩
          · exact absurd rfl lost
      · rcases tried : attempt (updated.updateWithStatus task.status) faults tasks with ⟨_, _⟩
        rw [bind_apply, tried] at ran
        rcases attempt_updateWithStatus tried with ⟨rfl, won⟩ | ⟨⟨_, rfl, _⟩, rfl⟩
        · obtain ⟨rfl, rfl⟩ := pure_eq.mp ran
          exact ⟨_, _, rfl, same, quota, .inr (.inl ⟨won, due⟩)⟩
        · obtain ⟨rfl, rfl⟩ := pure_eq.mp ran
          exact ⟨_, _, rfl, same, quota, videoUpdated_kept closes due⟩
      · obtain ⟨rfl, rfl⟩ := pure_eq.mp ran
        exact ⟨_, _, rfl, same, quota, videoUpdated_kept closes due⟩

theorem taskBulkUpdateByID_closed {ids failReason answer}
    (ran : attempt (taskBulkUpdateByID ids failReason) faults tasks = (.ok answer, after)) :
    Closed ids tasks after := by
  unfold taskBulkUpdateByID at ran
  split_ifs at ran with none
  · cases ran
    exact .inl rfl
  · unfold Db.attempt Db.execute Db.statement at ran
    cases fault : faults () with
    | some =>
      simp only [fault, Prod.mk.injEq] at ran
      exact .inl ran.2.symm
    | none =>
      simp only [fault, Prod.mk.injEq] at ran
      refine .inr ⟨failReason, fun id => ?_⟩
      rw [← ran.2, find?_modify]
      cases found : tasks.find? id with
      | none => rfl
      | some =>
        have sameId := (find?_eq_some.mp found).2
        simp only [Option.map_some, sameId]

def Loaded (tasks memory : TaskTable) : Prop := ∀ copy ∈ memory.rows, copy ∈ tasks.rows ∧ copy.unfinished = true

theorem findTasks_loaded {select memory}
    (selected : Loaded tasks (select tasks)) (ran : findTasks select faults tasks = (.ok memory, after)) :
    Loaded tasks memory := by
  unfold findTasks at ran
  rcases attempt_query_bind ran with ret | ⟨_, ret⟩
  · cases ret
    exact selected
  · cases ret
    exact fun _ bad => nomatch bad

end Programs

/-! ## Events -/

def pendingIds (worker : Worker) : List String :=
  match worker.stage with
  | .waiting taskIds => taskIds
  | .polling taskIds => taskIds
  | .reading _ => []

inductive Effect (env : TaskPollingEnv) (state : PollState) : PollEvent → PollState → Prop where
  | submit (task : Task) : Effect env state (.submit task) (state.submit task)
  | startSweep {node now fault memory} (idle : (state.passes node).stage = .idle) (loaded : Loaded state.tasks memory) :
      Effect env state (.startSweep node now fault) (state.setPass node ⟨memory, .sweeping (memory.rows.map Task.id)⟩)
  | sweepTask {node now fault task todo due rows}
      (stage : (state.passes node).stage = .sweeping (task.id :: todo)) (free : state.busy (.sweep node) = false)
      (copy : (state.passes node).memory.find? task.id = some task)
      (swept : (due = none ∧ rows = state.tasks) ∨ (Won state.tasks (timedOut env now task) task.status rows ∧
        due = if !isLegacy task && task.quota != 0 then some .refund else none)) :
          Effect env state (.sweepTask node now fault)
        (((state.setTasks rows).setPass node
          ⟨(state.passes node).memory.save (timedOut env now task), .sweeping todo⟩).leave
            (.sweep node) task.id (due.map .bill))
  | load {node fault memory rows} (ready : state.loads env node = true)
      (queried : state.onTasks (getAllUnFinishSyncTasks env.taskQueryLimit) fault = some (memory, rows))
      (loaded : Loaded state.tasks memory) : Effect env state (.load node fault)
        (state.setPass node ⟨memory, .dispatching (memory.rows.map Task.platform).dedup⟩)
  | dispatch {node platform fault platforms rows} (stage : (state.passes node).stage =
      .dispatching platforms) (member : platform ∈ platforms)
      (closed : Closed (nullTaskIds (state.passes node).memory platform) state.tasks rows) :
      Effect env state (.dispatch node platform fault) ((state.setTasks rows).setPass node ⟨(state.passes node).memory,
          dispatchedStage (state.passes node).memory platform (platforms.erase platform)⟩)
  | work {event node platform taskM workers platforms old next}
      (stage : (state.passes node).stage = .updating platform taskM workers platforms)
      (found : workers.find? next.channelId = some old) (shrinks : (pendingIds next).Sublist (pendingIds old)) :
      Effect env state event (state.setWorker node platform taskM workers platforms (state.passes node).memory next)
  | closeChannel {node channelId fault platform taskM workers platforms old taskIds rows}
      (stage : (state.passes node).stage = .updating platform taskM workers platforms)
      (found : workers.find? channelId = some old) (waiting : old.stage = .waiting taskIds)
      (closed : Closed (taskIds.filterMap taskM) state.tasks rows) :
        Effect env state (.getChannel node channelId false fault)
        ((state.setTasks rows).setWorker node platform taskM workers platforms (state.passes node).memory
          ⟨channelId, .polling []⟩)
  | pollVideo {node channelId now reply fault platform taskM workers platforms old upstreamID
      taskIds task updated due rows} (stage : (state.passes node).stage =
      .updating platform taskM workers platforms)
      (video : platform ≠ .suno) (free : state.busy (.worker node channelId) = false)
      (found : workers.find? channelId = some old) (polling : old.stage = .polling (upstreamID :: taskIds))
      (target : taskM upstreamID = some task.id) (copy : (state.passes node).memory.find? task.id = some task)
      (same : SameTask task updated) (quota : updated.quota = task.quota)
      (outcome : VideoUpdated state.tasks task updated due rows) :
        Effect env state (.pollVideo node channelId now reply fault)
        (((state.setTasks rows).setWorker node platform taskM workers platforms
          ((state.passes node).memory.save updated) ⟨channelId, .polling taskIds⟩).leave (.worker node channelId)
            task.id (due.map .bill))
  | readSuno {node channelId faults taskM workers platforms old item items task}
      (stage : (state.passes node).stage = .updating .suno taskM workers platforms)
      (free : state.busy (.worker node channelId) = false) (found : workers.find? channelId = some old)
      (reading : old.stage = .reading (item :: items)) (target : taskM item.taskID = some task.id)
      (copy : (state.passes node).memory.find? task.id = some task) (needed : taskNeedsUpdate task item = true) :
      Effect env state (.readSuno node channelId faults)
        (((if sunoFails task item then state.refundTask env (applySuno task item) faults else state).setWorker node
          .suno taskM workers platforms ((state.passes node).memory.save (applySuno task item))
            ⟨channelId, .reading items⟩).leave (.worker node channelId) task.id (some (.save (sunoFails task item))))
  | refund {caller adjusted fault faults call task} (placed : state.calls.find?
      (fun call => decide (call.caller = caller)) = some call)
      (operation : call.operation = .bill .refund)
      (copy : (state.passes caller.node).memory.find? call.taskId = some task) :
      Effect env state (.call caller adjusted fault faults) ((state.hangUp caller).refundTask env task faults)
  | settle {caller adjusted fault faults call task totalTokens}
      (placed : state.calls.find? (fun call => decide (call.caller = caller)) = some call)
      (operation : call.operation = .bill (.settle totalTokens))
      (copy : (state.passes caller.node).memory.find? call.taskId = some task) :
      Effect env state (.call caller adjusted fault faults)
        ((state.hangUp caller).settleTask env caller.node task adjusted totalTokens fault faults)
  | save {caller adjusted fault faults call task refunded}
      (placed : state.calls.find? (fun call => decide (call.caller = caller)) = some call)
      (operation : call.operation = .save refunded) (copy : (state.passes caller.node).memory.find?
        call.taskId = some task) :
      Effect env state (.call caller adjusted fault faults)
        ((state.hangUp caller).setTasks (task.update (fun _ => fault) state.tasks).2)
  | nextPlatform {node platform taskM workers platforms}
      (stage : (state.passes node).stage = .updating platform taskM workers platforms)
      (silent : ∀ call ∈ state.calls, call.caller.node ≠ node) :
      Effect env state (.finish node) (state.setPass node ⟨(state.passes node).memory, .dispatching platforms⟩)
  | endPass {node platforms} (stage : (state.passes node).stage = .dispatching platforms) :
      Effect env state (.finish node) (state.setPass node ⟨empty, .idle⟩)

section Events
variable {env : TaskPollingEnv} {state after : PollState}

theorem onTasks_eq {α : Type} {program : TaskDb α} {fault} {a : α} {rows : TaskTable}
    (ran : state.onTasks program fault = some (a, rows)) : program (fun _ => fault) state.tasks = (.ok a, rows) := by
  unfold onTasks at ran
  split at ran
  · rename_i a' rows' answered
    cases ran
    exact answered
  · cases ran

variable {node : Nat} {channelId : Int} {event : PollEvent}

theorem startSweep_effect {now : Int} {fault} (attempted : state.startSweep env node now fault = some after) :
    Effect env state (.startSweep node now fault) after := by
  unfold startSweep at attempted
  split at attempted
  · rename_i idle
    split_ifs at attempted
    obtain ⟨⟨_, _⟩, ran, same⟩ := Option.bind_eq_some_iff.mp attempted
    cases same
    refine .startSweep idle (findTasks_loaded (fun _ mem => ?_) (onTasks_eq ran))
    obtain ⟨row, unfinished⟩ := mem_filter.mp (mem_orderBy.mp (mem_of_limit mem))
    exact ⟨row, (Bool.and_eq_true_iff.mp unfinished).1⟩
  · cases attempted

theorem sweepTask_effect {now : Int} {fault} (attempted : state.sweepTask env node now fault = some after) :
    Effect env state (.sweepTask node now fault) after := by
  unfold sweepTask at attempted
  split at attempted
  · rename_i id todo stage
    split_ifs at attempted with busy
    obtain ⟨_, copy, cont⟩ := Option.bind_eq_some_iff.mp attempted
    obtain ⟨⟨⟨_, _⟩, _⟩, ran, same⟩ := Option.bind_eq_some_iff.mp cont
    obtain ⟨_, answered, swept⟩ := sweepTimedOutTask_cases (onTasks_eq ran)
    cases answered
    cases same
    obtain rfl := (find?_eq_some.mp copy).2
    exact .sweepTask stage (by simpa using busy) copy swept
  · cases attempted

theorem load_effect {fault} (attempted : state.load env node fault = some after) :
    Effect env state (.load node fault) after := by
  unfold load at attempted
  split_ifs at attempted with ready
  obtain ⟨⟨_, _⟩, ran, same⟩ := Option.bind_eq_some_iff.mp attempted
  cases same
  refine .load (by simpa using ready) ran (findTasks_loaded (fun _ mem => ?_) (onTasks_eq ran))
  exact mem_filter.mp (mem_orderBy.mp (mem_of_limit mem))

theorem dispatch_effect {platform fault} (attempted : state.dispatch node platform fault = some after) :
    Effect env state (.dispatch node platform fault) after := by
  unfold dispatch at attempted
  split at attempted
  · rename_i platforms stage
    split_ifs at attempted with present
    obtain ⟨⟨_, _⟩, ran, same⟩ := Option.bind_eq_some_iff.mp attempted
    cases same
    exact .dispatch stage present (taskBulkUpdateByID_closed (onTasks_eq ran))
  · cases attempted

theorem getChannel_effect {found : Bool} {fault} (attempted : state.getChannel node channelId found
    fault = some after) :
    Effect env state (.getChannel node channelId found fault) after := by
  unfold PollState.getChannel at attempted
  split at attempted
  · rename_i platform taskM workers platforms stage
    obtain ⟨_, known, cont⟩ := Option.bind_eq_some_iff.mp attempted
    split at cont
    · rename_i taskIds waiting
      split_ifs at cont with turn there
      · cases cont
        exact .work stage known (by rw [pendingIds, pendingIds, waiting])
      · obtain ⟨⟨_, _⟩, ran, same⟩ := Option.bind_eq_some_iff.mp cont
        cases same
        obtain rfl : found = false := by simpa using there
        exact .closeChannel stage known waiting (taskBulkUpdateByID_closed (onTasks_eq ran))
    · cases cont
  · cases attempted

theorem copy_of_target {taskM : String → Option Int} {upstreamID : String} {memory : TaskTable} {task}
    (found : (taskM upstreamID).bind memory.find? = some task) :
    taskM upstreamID = some task.id ∧ memory.find? task.id = some task := by
  obtain ⟨_, target, copy⟩ := Option.bind_eq_some_iff.mp found
  obtain rfl := (find?_eq_some.mp copy).2
  exact ⟨target, copy⟩

theorem pollVideo_effect {now : Int} {reply} {fault : Option String}
    (attempted : state.pollVideo env node channelId now reply fault = some after) :
    Effect env state (.pollVideo node channelId now reply fault) after := by
  unfold pollVideo at attempted
  split at attempted
  · rename_i platform taskM workers platforms stage
    split_ifs at attempted with refused
    obtain ⟨video, free⟩ := not_or.mp refused
    obtain ⟨worker, known, cont⟩ := Option.bind_eq_some_iff.mp attempted
    split at cont
    · rename_i upstreamID taskIds polling
      have shrinks : (pendingIds ⟨channelId, .polling taskIds⟩).Sublist (pendingIds worker) := by
        rw [pendingIds, pendingIds, polling]
        exact List.sublist_cons_self _ _
      dsimp only at cont
      split at cont
      · rename_i task answer looked
        obtain ⟨target, copy⟩ := copy_of_target looked
        obtain ⟨⟨⟨_, _⟩, _⟩, ran, same⟩ := Option.bind_eq_some_iff.mp cont
        obtain ⟨_, _, answered, sameTask, quota, outcome⟩ := updateVideoSingleTask_cases (onTasks_eq ran)
        cases answered
        cases same
        exact .pollVideo stage video (by simpa using free) known polling target copy sameTask quota outcome
      · cases cont
        exact .work stage known shrinks
    · cases cont
  · cases attempted

theorem fetchSuno_effect {items} (attempted : state.fetchSuno node channelId items = some after) :
    Effect env state (.fetchSuno node channelId items) after := by
  unfold fetchSuno at attempted
  split at attempted
  · rename_i taskM workers platforms stage
    obtain ⟨_, known, cont⟩ := Option.bind_eq_some_iff.mp attempted
    split at cont
    · cases cont
      exact .work stage known (List.nil_sublist _)
    · cases cont
  · cases attempted

theorem readSuno_effect {faults} (attempted : state.readSuno env node channelId faults = some after) :
    Effect env state (.readSuno node channelId faults) after := by
  unfold readSuno at attempted
  split at attempted
  · rename_i taskM workers platforms stage
    split_ifs at attempted with busy
    obtain ⟨_, known, cont⟩ := Option.bind_eq_some_iff.mp attempted
    split at cont
    · rename_i item items reading
      dsimp only at cont
      split at cont
      · rename_i task looked
        obtain ⟨target, copy⟩ := copy_of_target looked
        by_cases needed : taskNeedsUpdate task item = true
        · rw [if_pos needed] at cont
          cases cont
          exact .readSuno stage (by simpa using busy) known reading target copy needed
        · rw [if_neg needed] at cont
          cases cont
          exact .work stage known (List.nil_sublist _)
      · cases cont
        exact .work stage known (List.nil_sublist _)
    · cases cont
  · cases attempted

theorem cancel_effect (attempted : state.cancel node channelId = some after) :
    Effect env state (.cancel node channelId) after := by
  unfold cancel at attempted
  split at attempted
  · rename_i platform taskM workers platforms stage
    split_ifs at attempted
    obtain ⟨_, known, same⟩ := Option.bind_eq_some_iff.mp attempted
    cases same
    exact .work stage known (List.nil_sublist _)
  · cases attempted

theorem call_effect {caller adjusted fault faults} (attempted : state.call env caller adjusted fault
    faults = some after) :
    Effect env state (.call caller adjusted fault faults) after := by
  unfold call at attempted
  obtain ⟨_, placed, cont⟩ := Option.bind_eq_some_iff.mp attempted
  obtain ⟨_, copy, ended⟩ := Option.bind_eq_some_iff.mp cont
  dsimp only at ended
  split at ended
  · rename_i operation
    cases ended
    exact .refund placed operation copy
  · rename_i totalTokens operation
    cases ended
    exact .settle placed operation copy
  · rename_i refunded operation
    cases ended
    exact .save placed operation copy

theorem finish_effect (attempted : state.finish node = some after) : Effect env state (.finish node) after := by
  unfold finish at attempted
  split at attempted
  · rename_i platform taskM workers platforms stage
    split_ifs at attempted with ready
    cases attempted
    refine .nextPlatform stage fun call mem sameNode => ?_
    simp only [Bool.and_eq_true, Bool.not_eq_true', List.any_eq_false, decide_eq_true_eq] at ready
    exact ready.2 call mem sameNode
  · rename_i platforms stage
    cases attempted
    exact .endPass stage
  · cases attempted

theorem attempt_effect (attempted : state.attempt env event = some after) : Effect env state event after := by
  cases event with
  | submit task =>
    cases attempted
    exact .submit task
  | startSweep => exact startSweep_effect attempted
  | sweepTask => exact sweepTask_effect attempted
  | load => exact load_effect attempted
  | dispatch => exact dispatch_effect attempted
  | getChannel => exact getChannel_effect attempted
  | pollVideo => exact pollVideo_effect attempted
  | fetchSuno => exact fetchSuno_effect attempted
  | readSuno => exact readSuno_effect attempted
  | call => exact call_effect attempted
  | cancel => exact cancel_effect attempted
  | finish => exact finish_effect attempted

theorem step_of_effect {holds : PollState → Prop} (init : holds state)
    (keeps : ∀ after, Effect env state event after → holds after) : holds (state.step env event) := by
  unfold step
  cases attempted : state.attempt env event with
  | none => exact init
  | some after => exact keeps after (attempt_effect attempted)

end Events
end NewApi.Proof
