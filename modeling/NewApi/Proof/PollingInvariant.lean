import NewApi.Proof.PollingSteps

/-! # What every pass and every call knows -/

namespace NewApi.Proof
open Library Model Service PollState Table List Option
variable {tasks : TaskTable} {task copy : Task} {platform : TaskPlatform}
    {platforms : List TaskPlatform} {env : TaskPollingEnv}
    {state : PollState}

/-! ## Rows -/

def Keeps (tasks after : TaskTable) : Prop :=
  ∀ id row, tasks.find? id = some row → ∃ row', after.find? id = some row' ∧ row'.platform = row.platform

section Rows
variable {after : TaskTable} {row : Task}

theorem keeps_refl (tasks) : Keeps tasks tasks := fun _ row found => ⟨row, found, rfl⟩

theorem keeps_insert (task) : Keeps tasks (tasks.insert task) :=
  fun _ row found => ⟨row, find?_insert_of_some found, rfl⟩

theorem keeps_save (stored : ∀ row, tasks.find? copy.id = some row → copy.platform = row.platform) :
    Keeps tasks (tasks.save copy) := by
  intro _ row found
  rw [find?_save]
  split_ifs with same
  · subst same
    exact ⟨copy, by rw [found]; rfl, stored row found⟩
  · exact ⟨row, found, rfl⟩

theorem keeps_closed {ids} (closed : Closed ids tasks after) : Keeps tasks after := by
  rcases closed with rfl | ⟨failReason, rows⟩
  · exact keeps_refl _
  · intro _ _ found
    rw [rows, found]
    refine ⟨_, rfl, ?_⟩
    split_ifs <;> rfl

theorem updateQuota_eq (fault : Option String) (id : Int) (task : Task) :
    (task.updateQuota (fun _ => fault) tasks).2.find? id = (tasks.find? id).map fun row =>
      if fault = none ∧ id = task.id then { row with quota := task.quota } else row := by
  unfold Task.updateQuota Db.execute Db.statement
  cases fault with
  | some => simp
  | none =>
    simp only [find?_modify, true_and]
    cases found : tasks.find? id with
    | none => rfl
    | some => simp only [map_some, (find?_eq_some.mp found).2]

theorem find?_updateQuota {fault id} (task : Task) (found : tasks.find? id = some row) :
    ∃ row', (task.updateQuota (fun _ => fault) tasks).2.find? id = some row' ∧
      (row' = row ∨ (id = task.id ∧ row' = { row with quota := task.quota })) := by
  rw [updateQuota_eq, found]
  refine ⟨_, rfl, ?_⟩
  split_ifs with here
  · exact .inr ⟨here.2, rfl⟩
  · exact .inl rfl

theorem keeps_updateQuota {fault} (task : Task) : Keeps tasks (task.updateQuota (fun _ => fault) tasks).2 := by
  intro _ _ found
  obtain ⟨_, found', rfl | ⟨-, rfl⟩⟩ := find?_updateQuota task found
  · exact ⟨_, found', rfl⟩
  · exact ⟨_, found', rfl⟩

theorem update_eq (fault : Option String) (task) :
    (task.update (fun _ => fault) tasks).2 = if fault = none then tasks.save task else tasks := by
  unfold Task.update Db.execute Db.statement
  cases fault <;> rfl

end Rows

/-! ## Passes -/

def Waiting (memory : TaskTable) (platforms : List TaskPlatform) : Prop :=
  platforms.Nodup ∧ ∀ copy ∈ memory.rows, copy.platform ∈ platforms → copy.status.isDone = false

def PassKnown (pass : Pass) : Prop :=
  match pass.stage with
  | .idle => True
  | .sweeping todo => todo.Nodup ∧ ∀ id ∈ todo, ∀ copy, pass.memory.find? id = some copy → copy.status.isDone = false
  | .dispatching platforms => Waiting pass.memory platforms
  | .updating platform taskM _ platforms => platform ∉ platforms ∧ Waiting pass.memory platforms ∧
      ∀ upstreamID id, taskM upstreamID = some id →
        ∃ copy, pass.memory.find? id = some copy ∧ copy.platform = platform ∧ copy.getUpstreamTaskID = upstreamID

section Passes
variable {memory : TaskTable}

theorem unfinished_notDone (unfinished : task.unfinished = true) : task.status.isDone = false := by
  simp only [Task.unfinished, Bool.and_eq_true, Bool.not_eq_true'] at unfinished
  exact unfinished.2

theorem passKnown_startSweep (loaded : Loaded tasks memory) :
    PassKnown ⟨memory, .sweeping (memory.rows.map Task.id)⟩ := by
  refine ⟨memory.unique, fun _ _ copy found => ?_⟩
  exact unfinished_notDone (loaded copy (find?_eq_some.mp found).1).2

theorem passKnown_sweepTask {todo} (known : PassKnown ⟨memory, .sweeping (copy.id :: todo)⟩) :
    PassKnown ⟨memory.save copy, .sweeping todo⟩ := by
  obtain ⟨distinct, loaded⟩ := known
  obtain ⟨fresh, rest⟩ := nodup_cons.mp distinct
  refine ⟨rest, fun id mem other found => ?_⟩
  rw [find?_save, if_neg fun same : id = copy.id => fresh (same ▸ mem)] at found
  exact loaded id (mem_cons_of_mem _ mem) other found

theorem taskM_eq_some {tasks upstreamID id} (target : taskM tasks upstreamID = some id) :
    ∃ copy ∈ tasks, copy.id = id ∧ copy.getUpstreamTaskID = upstreamID := by
  obtain ⟨copy, found, same⟩ := map_eq_some_iff.mp target
  exact ⟨copy, mem_reverse.mp (mem_of_find?_eq_some found), same, by simpa using find?_some found⟩

theorem mem_polledTasks : copy ∈ polledTasks memory platform ↔
    copy ∈ memory.rows ∧ copy.platform = platform ∧ copy.getUpstreamTaskID ≠ "" := by
  simp [polledTasks]

theorem waiting_erase (waiting : Waiting memory platforms) (platform) : Waiting memory (platforms.erase platform) :=
  ⟨waiting.1.erase platform, fun copy mem among => waiting.2 copy mem (mem_of_mem_erase among)⟩

theorem passKnown_dispatch (known : PassKnown ⟨memory, .dispatching platforms⟩) :
    PassKnown ⟨memory, dispatchedStage memory platform (platforms.erase platform)⟩ := by
  have waiting : Waiting memory platforms := known
  unfold dispatchedStage
  dsimp only
  split_ifs
  · exact waiting_erase waiting platform
  · refine ⟨waiting.1.not_mem_erase, waiting_erase waiting platform, fun _ _ target => ?_⟩
    obtain ⟨copy, among, sameId, sameUpstream⟩ := taskM_eq_some target
    obtain ⟨mem, samePlatform, -⟩ := mem_polledTasks.mp among
    exact ⟨copy, find?_eq_some.mpr ⟨mem, sameId⟩, samePlatform, sameUpstream⟩

theorem find?_save_same {id} (found : memory.find? task.id = some task) (same : SameTask task copy)
    {other} (looked : memory.find? id = some other) :
    ∃ other', (memory.save copy).find? id = some other' ∧ SameTask other other' ∧
      (other' = other ∨ (other = task ∧ other' = copy)) := by
  rw [find?_save, same.id]
  split_ifs with sameId
  · subst sameId
    obtain rfl : task = other := mem_unique found looked
    exact ⟨copy, by rw [found]; rfl, same, .inr ⟨rfl, rfl⟩⟩
  · exact ⟨other, looked, ⟨rfl, rfl, rfl, rfl⟩, .inl rfl⟩

theorem find?_saved (found : memory.find? task.id = some task) (same : SameTask task copy) :
    (memory.save copy).find? task.id = some copy := by
  rw [find?_save, if_pos same.id.symm, found]
  rfl

theorem passKnown_update {taskM workers workers'} (known : PassKnown
    ⟨memory, .updating platform taskM workers platforms⟩)
    (found : memory.find? task.id = some task) (same : SameTask task copy) (here : task.platform = platform) :
    PassKnown ⟨memory.save copy, .updating platform taskM workers' platforms⟩ := by
  obtain ⟨past, ⟨distinct, waiting⟩, targets⟩ := known
  refine ⟨past, ⟨distinct, fun other mem among => ?_⟩, fun upstreamID id target => ?_⟩
  · rcases mem_save.mp mem with ⟨rfl, -⟩ | ⟨old, -⟩
    · rw [same.platform, here] at among
      exact absurd among past
    · exact waiting other old among
  · obtain ⟨_, looked, samePlatform, sameUpstream⟩ := targets upstreamID id target
    obtain ⟨other', looked', kept, -⟩ := find?_save_same found same looked
    exact ⟨other', looked', kept.platform.trans samePlatform, kept.upstream.trans sameUpstream⟩

end Passes

/-! ## The whole state -/

def CallOf (pass : Pass) (caller : Caller) (copy : Task) (operation : Operation) : Prop :=
  match caller with
  | .sweep _ => operation = .bill .refund ∧ ∃ todo, pass.stage = .sweeping todo
  | .worker _ _ => (∃ taskM workers platforms, pass.stage = .updating copy.platform taskM workers platforms) ∧
      (copy.platform = .suno ↔ ∃ refunded, operation = .save refunded)

def CallKnown (pass : Pass) (call : Call) : Prop :=
  ∃ copy, pass.memory.find? call.taskId = some copy ∧ CallOf pass call.caller copy call.operation

structure Known (state : PollState) : Prop where
  passes : ∀ node, PassKnown (state.passes node)
  copies : ∀ node, ∀ copy ∈ (state.passes node).memory.rows,
    ∃ row, state.tasks.find? copy.id = some row ∧ row.platform = copy.platform
  callers : (state.calls.map Call.caller).Nodup
  calls : ∀ call ∈ state.calls, CallKnown (state.passes call.caller.node) call

section State
variable {rows : TaskTable} {node : Nat} {pass : Pass}

@[simp] theorem setPass_self : (state.setPass node pass).passes node = pass := by
  simp [setPass]

@[simp] theorem setPass_ne {other : Nat} (ne : other ≠ node) :
    (state.setPass node pass).passes other = state.passes other := by
  simp [setPass, ne]

@[simp] theorem setTasks_tasks : (state.setTasks rows).tasks = rows := rfl

variable {caller : Caller} {id totalTokens : Int} {call : Call}

@[simp] theorem leave_passes {operation} : (state.leave caller id operation).passes = state.passes := by
  cases operation <;> rfl

@[simp] theorem leave_tasks {operation} : (state.leave caller id operation).tasks = state.tasks := by
  cases operation <;> rfl

@[simp] theorem leave_log {operation} : (state.leave caller id operation).log = state.log := by
  cases operation <;> rfl

theorem known_start (tasks billing) : Known (.start tasks billing) where
  passes _ := trivial
  copies _ _ bad := nomatch bad
  callers := nodup_nil
  calls _ bad := nomatch bad

theorem known_setTasks (known : Known state) (keeps : Keeps state.tasks rows) : Known (state.setTasks rows) where
  passes := known.passes
  copies node copy mem := by
    obtain ⟨row, found, same⟩ := known.copies node copy mem
    obtain ⟨row', found', kept⟩ := keeps copy.id row found
    exact ⟨row', found', kept.trans same⟩
  callers := known.callers
  calls := known.calls

theorem known_setPass (known : Known state) (passKnown : PassKnown pass)
    (copies : ∀ copy ∈ pass.memory.rows, ∃ row, state.tasks.find? copy.id = some row ∧ row.platform = copy.platform)
    (calls : ∀ call ∈ state.calls, call.caller.node = node → CallKnown pass call) :
    Known (state.setPass node pass) where
  passes other := by
    by_cases same : other = node
    · subst same
      simpa [setPass] using passKnown
    · simpa [setPass, same] using known.passes other
  copies other := by
    by_cases same : other = node
    · subst same
      simpa [setPass] using copies
    · simpa [setPass, same] using known.copies other
  callers := known.callers
  calls call mem := by
    by_cases same : call.caller.node = node
    · simpa [setPass, same] using calls call mem same
    · simpa [setPass, same] using known.calls call mem

theorem passes_setPass {holds : Pass → Prop} (before : ∀ node, holds (state.passes node))
    (here : holds pass) (other : Nat) :
    holds ((state.setPass node pass).passes other) := by
  by_cases same : other = node
  · subst same
    rw [setPass_self]
    exact here
  · rw [setPass_ne same]
    exact before other

theorem not_busy (free : state.busy caller = false) : ∀ call ∈ state.calls, call.caller ≠ caller := by
  simpa [busy] using free

theorem known_leave {operation} (known : Known state) (free : ∀ call ∈ state.calls, call.caller ≠ caller)
    (placed : ∀ made, operation = some made → CallKnown (state.passes caller.node) ⟨caller, id, made⟩) :
    Known (state.leave caller id operation) := by
  cases operation with
  | none => exact known
  | some made =>
    refine ⟨known.passes, known.copies, ?_, fun call mem => ?_⟩
    · refine nodup_cons.mpr ⟨fun again => ?_, known.callers⟩
      obtain ⟨call, mem, same⟩ := mem_map.mp again
      exact free call mem same
    · rcases mem_cons.mp mem with rfl | old
      · exact placed made rfl
      · exact known.calls call old

theorem known_hangUp (known : Known state) (caller) : Known (state.hangUp caller) where
  passes := known.passes
  copies := known.copies
  callers := known.callers.sublist (filter_sublist.map _)
  calls call mem := known.calls call (mem_of_mem_filter mem)

theorem known_refundTask (known : Known state) (task faults) : Known (state.refundTask env task faults) :=
  ⟨known.passes, known.copies, known.callers, known.calls⟩

theorem silent_of_stage (known : Known state) (mem : call ∈ state.calls) (here : call.caller.node = node) :
    (∃ todo, (state.passes node).stage = .sweeping todo ∧ call.caller = .sweep node) ∨
      ∃ platform taskM workers platforms, (state.passes node).stage = .updating platform taskM workers platforms := by
  obtain ⟨_, -, placed⟩ := known.calls call mem
  obtain ⟨caller, _, _⟩ := call
  subst here
  cases caller with
  | sweep =>
    obtain ⟨-, todo, stage⟩ := placed
    exact .inl ⟨todo, stage, rfl⟩
  | worker =>
    obtain ⟨⟨taskM, workers, platforms, stage⟩, -⟩ := placed
    exact .inr ⟨_, taskM, workers, platforms, stage⟩

theorem passKnown_of_stage {stage} (known : PassKnown pass) (same : pass.stage = stage) :
    PassKnown ⟨pass.memory, stage⟩ := by
  subst same
  exact known

theorem copies_loaded {memory} (loaded : Loaded state.tasks memory) :
    ∀ copy ∈ memory.rows, ∃ row, state.tasks.find? copy.id = some row ∧ row.platform = copy.platform :=
  fun copy mem => ⟨copy, find?_eq_some.mpr ⟨(loaded copy mem).1, rfl⟩, rfl⟩

theorem copies_save {task copy} (known : Known state) (found : (state.passes node).memory.find? task.id = some task)
    (same : SameTask task copy) : ∀ other ∈ ((state.passes node).memory.save copy).rows,
      ∃ row, state.tasks.find? other.id = some row ∧ row.platform = other.platform := by
  intro other mem
  rcases mem_save.mp mem with ⟨rfl, -⟩ | ⟨old, -⟩
  · rw [same.id, same.platform]
    exact known.copies node task (find?_eq_some.mp found).1
  · exact known.copies node other old

theorem keeps_won {task copy fromStatus} (known : Known state)
    (found : (state.passes node).memory.find? task.id = some task) (same : SameTask task copy)
    (won : Won state.tasks copy fromStatus rows) : Keeps state.tasks rows := by
  obtain ⟨-, -, -, rfl⟩ := won
  refine keeps_save fun _ stored => ?_
  obtain ⟨_, stored', samePlatform⟩ := known.copies node task (find?_eq_some.mp found).1
  rw [same.id, stored'] at stored
  cases stored
  exact same.platform.trans samePlatform.symm

theorem keeps_update {task fault} (known : Known state) (found : (state.passes node).memory.find? id = some task) :
    Keeps state.tasks (task.update (fun _ => fault) state.tasks).2 := by
  rw [update_eq]
  split_ifs
  · refine keeps_save fun row stored => ?_
    obtain ⟨row', stored', samePlatform⟩ := known.copies node task (find?_eq_some.mp found).1
    obtain rfl : row' = row := mem_unique stored' stored
    exact samePlatform.symm
  · exact keeps_refl _

variable {taskM : String → Option Int} {workers workers' : Workers}

theorem callOf_workers {operation memory} (kept : copy.platform = task.platform)
    (stage : (state.passes node).stage = .updating platform taskM workers platforms)
    (placed : CallOf (state.passes node) caller task operation) :
    CallOf ⟨memory, .updating platform taskM workers' platforms⟩ caller copy operation := by
  cases caller with
  | sweep =>
    obtain ⟨-, _, bad⟩ := placed
    exact absurd (stage.symm.trans bad) (by simp)
  | worker =>
    obtain ⟨⟨_, _, _, stage'⟩, saves⟩ := placed
    obtain ⟨rfl, rfl, rfl, rfl⟩ : _ ∧ _ ∧ _ ∧ _ := by simpa using stage.symm.trans stage'
    rw [CallOf, kept]
    exact ⟨⟨_, _, _, rfl⟩, saves⟩

section
variable (known : Known state)
include known

section
variable (stage : (state.passes node).stage = .updating platform taskM workers platforms)
include stage

theorem known_work :
    Known (state.setPass node ⟨(state.passes node).memory,
    .updating platform taskM workers' platforms⟩) := by
  have passKnown := passKnown_of_stage (known.passes node) stage
  refine known_setPass known passKnown (known.copies node) ?_
  rintro ⟨_, _, _⟩ mem rfl
  obtain ⟨other, looked, placed⟩ := known.calls _ mem
  exact ⟨other, looked, callOf_workers rfl stage placed⟩

theorem known_update (found : (state.passes node).memory.find? task.id = some task)
    (same : SameTask task copy) (here : task.platform = platform) :
    Known (state.setPass node ⟨(state.passes node).memory.save copy, .updating platform taskM workers' platforms⟩) := by
  refine known_setPass known (passKnown_update (passKnown_of_stage (known.passes node) stage) found same here)
    (copies_save known found same) ?_
  rintro ⟨_, _, _⟩ mem rfl
  obtain ⟨_, looked, placed⟩ := known.calls _ mem
  obtain ⟨other', looked', kept, -⟩ := find?_save_same found same looked
  exact ⟨other', looked', callOf_workers kept.platform stage placed⟩

theorem known_updateCall {channelId operation} (found : (state.passes node).memory.find? task.id =
    some task) (same : SameTask task copy)
    (here : task.platform = platform) (free : state.busy (.worker node channelId) = false)
    (saves : ∀ made, operation = some made → (platform = .suno ↔ ∃ refunded, made = .save refunded)) :
    Known ((state.setPass node ⟨(state.passes node).memory.save copy,
      .updating platform taskM workers' platforms⟩).leave (.worker node channelId) task.id operation) := by
  refine known_leave (known_update known stage found same here) (not_busy free) fun made left => ?_
  rw [Caller.node, setPass_self]
  refine ⟨copy, find?_saved found same, ⟨taskM, workers', platforms, ?_⟩, ?_⟩
  · rw [same.platform, here]
  · rw [same.platform, here]
    exact saves made left

theorem target_platform {upstreamID} (target : taskM upstreamID = some task.id)
    (found : (state.passes node).memory.find? task.id = some task) :
    task.platform = platform ∧ task.getUpstreamTaskID = upstreamID := by
  obtain ⟨-, -, targets⟩ := passKnown_of_stage (known.passes node) stage
  obtain ⟨other, looked, samePlatform, sameUpstream⟩ := targets upstreamID task.id target
  obtain rfl : task = other := mem_unique found looked
  exact ⟨samePlatform, sameUpstream⟩

end

theorem silent_idle (idle : (state.passes node).stage = .idle) : ∀ call ∈ state.calls, call.caller.node ≠ node := by
  intro _ mem here
  rcases silent_of_stage known mem here with ⟨_, stage, -⟩ | ⟨_, _, _, _, stage⟩ <;> exact absurd
    (idle.symm.trans stage) (by simp)

theorem silent_sweep {todo} (stage : (state.passes node).stage = .sweeping todo)
    (free : state.busy (.sweep node) = false) : ∀ call ∈ state.calls, call.caller.node ≠ node := by
  intro call mem here
  rcases silent_of_stage known mem here with ⟨-, -, same⟩ | ⟨_, _, _, _, stage'⟩
  · exact not_busy free call mem same
  · exact absurd (stage.symm.trans stage') (by simp)

theorem silent_load (ready : state.loads env node = true) : ∀ call ∈ state.calls, call.caller.node ≠ node := by
  unfold loads at ready
  split at ready
  · rename_i stage
    exact silent_idle known stage
  · rename_i stage
    exact silent_sweep known stage (by simpa using ready)
  · cases ready

theorem silent_dispatching (stage : (state.passes node).stage = .dispatching platforms) :
    ∀ call ∈ state.calls, call.caller.node ≠ node := by
  intro _ mem here
  rcases silent_of_stage known mem here with ⟨_, stage', -⟩ | ⟨_, _, _, _, stage'⟩ <;> exact absurd
    (stage.symm.trans stage') (by simp)

end

theorem placed_mem (placed : state.calls.find? (fun call => decide (call.caller = caller)) = some call) :
    call ∈ state.calls ∧ call.caller = caller :=
  ⟨mem_of_find?_eq_some placed, by simpa using find?_some placed⟩

section Placed
variable (known : Known state) (placed : state.calls.find? (fun call => decide (call.caller = caller)) = some call)
    (found : (state.passes caller.node).memory.find? call.taskId = some task)
include known placed found

theorem worker_stage (operation : call.operation ≠ .bill .refund) :
    (task.platform = .suno ↔ ∃ refunded, call.operation = .save refunded) ∧ ∃ taskM workers platforms,
      (state.passes caller.node).stage = .updating task.platform taskM workers platforms := by
  obtain ⟨mem, same⟩ := placed_mem placed
  obtain ⟨other, looked, stands⟩ := known.calls call mem
  rw [same] at looked stands
  obtain rfl : task = other := mem_unique found looked
  cases caller with
  | sweep => exact absurd stands.1 operation
  | worker => exact ⟨stands.2, stands.1⟩

theorem settle_stage (operation : call.operation = .bill (.settle totalTokens)) :
    task.platform ≠ .suno ∧ ∃ taskM workers platforms,
      (state.passes caller.node).stage = .updating task.platform taskM workers platforms := by
  obtain ⟨saves, stage⟩ := worker_stage known placed found (by simp [operation])
  refine ⟨fun suno => ?_, stage⟩
  obtain ⟨_, bad⟩ := saves.mp suno
  rw [operation] at bad
  cases bad

theorem save_stage {refunded} (operation : call.operation = .save refunded) :
    task.platform = .suno ∧ ∃ taskM workers platforms,
      (state.passes caller.node).stage = .updating task.platform taskM workers platforms := by
  obtain ⟨saves, stage⟩ := worker_stage known placed found (by simp [operation])
  exact ⟨saves.mpr ⟨refunded, operation⟩, stage⟩

end Placed

theorem settleTask_cases (env : TaskPollingEnv) (state : PollState) (node : Nat) (task : Task) (adjusted totalTokens : Int)
    (fault : Option String) (faults : Faults TaskBillingStatement String) :
    ∃ billing paid, state.settleTask env node task adjusted totalTokens fault faults =
        { state with billing := billing, log := ⟨task.id, .settle, taskAccount task, task.quota, paid⟩ :: state.log } ∨
      ∃ actualQuota, state.settleTask env node task adjusted totalTokens fault faults =
        { state.setPass node ⟨(state.passes node).memory.save { task with quota := actualQuota },
            (state.passes node).stage⟩ with
          tasks := ({ task with quota := actualQuota }.updateQuota (fun _ => fault) state.tasks).2
          billing := billing
          log := ⟨task.id, .settle, taskAccount task, task.quota, paid⟩ :: state.log } := by
  unfold settleTask
  dsimp only
  split
  · exact ⟨_, true, .inr ⟨_, rfl⟩⟩
  · exact ⟨_, false, .inl rfl⟩

theorem known_settleTask {adjusted fault faults} (known : Known state)
    (stage : (state.passes node).stage = .updating task.platform taskM workers platforms)
    (found : (state.passes node).memory.find? task.id = some task) :
    Known (state.settleTask env node task adjusted totalTokens fault faults) := by
  obtain ⟨_, _, same | ⟨actualQuota, charged⟩⟩ := settleTask_cases env state node task adjusted totalTokens fault faults
  · rw [same]
    exact ⟨known.passes, known.copies, known.callers, known.calls⟩
  · have same : SameTask task { task with quota := actualQuota } := ⟨rfl, rfl, rfl, rfl⟩
    have updated : Known ((state.setTasks ({ task with quota := actualQuota }.updateQuota (fun _ => fault)
        state.tasks).2).setPass node ⟨(state.passes node).memory.save { task with quota := actualQuota },
          .updating task.platform taskM workers platforms⟩) :=
      known_update (known_setTasks known (keeps_updateQuota _)) stage found same rfl
    rw [charged, stage]
    exact ⟨updated.passes, updated.copies, updated.callers, updated.calls⟩

end State

section Effects
variable {after : PollState} {event : PollEvent}

theorem known_effect (known : Known state) (effect : Effect env state event after) : Known after := by
  cases effect with
  | submit => exact known_setTasks known (keeps_insert _)
  | startSweep idle loaded =>
    exact known_setPass known (passKnown_startSweep loaded) (copies_loaded loaded)
      fun call mem here => absurd here (silent_idle known idle call mem)
  | @sweepTask node now _ task todo _ rows stage free copy swept =>
    have same : SameTask task (timedOut env now task) := ⟨rfl, rfl, rfl, rfl⟩
    have keeps : Keeps state.tasks rows := by
      rcases swept with ⟨-, rfl⟩ | ⟨won, -⟩
      · exact keeps_refl _
      · exact keeps_won known copy same won
    have silent := silent_sweep known stage free
    refine known_leave (known_setPass (known_setTasks known keeps)
      (passKnown_sweepTask (passKnown_of_stage (known.passes node) stage)) ?_ ?_) (not_busy free) fun made bill => ?_
    · exact copies_save (known_setTasks known keeps) copy same
    · exact fun call mem here => absurd here (silent call mem)
    · have refund : made = .bill .refund := by
        rcases swept with ⟨rfl, -⟩ | ⟨-, rfl⟩
        · cases bill
        · split_ifs at bill
          · exact (some.inj bill).symm
          · cases bill
      refine ⟨timedOut env now task, ?_, refund, todo, ?_⟩
      · simpa [setPass, Caller.node] using find?_saved copy same
      · simp [setPass, Caller.node]
  | load ready _ loaded =>
    exact known_setPass known ⟨nodup_dedup _, fun copy mem _ =>
      unfinished_notDone (loaded copy mem).2⟩ (copies_loaded loaded)
      fun call mem here => absurd here (silent_load known ready call mem)
  | @dispatch node _ _ _ _ stage mem closed =>
    exact known_setPass (known_setTasks known (keeps_closed closed))
      (passKnown_dispatch (passKnown_of_stage (known.passes node) stage))
      ((known_setTasks known (keeps_closed closed)).copies node)
      fun call mem here => absurd here (silent_dispatching known stage call mem)
  | work stage => exact known_work known stage
  | closeChannel stage _ _ closed => exact known_work (known_setTasks known (keeps_closed closed)) stage
  | @pollVideo _ _ _ _ _ _ _ _ _ _ _ _ _ _ _
    rows stage video free _ _ target copy same _ outcome =>
    obtain ⟨here, -⟩ := target_platform known stage target copy
    have keeps : Keeps state.tasks rows := by
      rcases outcome with ⟨rfl, -⟩ | ⟨won, -⟩ | ⟨rfl, -⟩
      · exact keeps_refl _
      · exact keeps_won known copy same won
      · exact keeps_refl _
    refine known_updateCall (known_setTasks known keeps) stage copy same here free fun made bill => ?_
    obtain ⟨_, -, rfl⟩ := map_eq_some_iff.mp bill
    simp [video]
  | @readSuno _ _ _ _ _ _ _ item _ task stage free _ _ target copy
    _ =>
    obtain ⟨here, -⟩ := target_platform known stage target copy
    have same : SameTask task (applySuno task item) := ⟨rfl, rfl, rfl, rfl⟩
    have saves : ∀ made, some (Operation.save (sunoFails task item)) = some made →
        (TaskPlatform.suno = .suno ↔ ∃ refunded, made = .save refunded) := by
      rintro _ ⟨⟩
      simp
    split_ifs
    · exact known_updateCall (known_refundTask known _ _) stage copy same here free saves
    · exact known_updateCall known stage copy same here free saves
  | refund => exact known_refundTask (known_hangUp known _) _ _
  | settle placed operation copy =>
    obtain ⟨-, _, _, _, stage⟩ := settle_stage known placed copy operation
    rw [← (find?_eq_some.mp copy).2] at copy
    exact known_settleTask (known_hangUp known _) stage copy
  | @save _ _ _ _ _ _ _ _ _ copy => exact known_setTasks (known_hangUp known _) (keeps_update (known_hangUp known _) copy)
  | @nextPlatform node _ _ _ _ stage silent =>
    obtain ⟨-, waiting, -⟩ := passKnown_of_stage (known.passes node) stage
    exact known_setPass known waiting (known.copies node) fun call mem here => absurd here (silent call mem)
  | endPass stage =>
    refine known_setPass known trivial (fun _ bad => ?_)
      fun call mem here => absurd here (silent_dispatching known stage call mem)
    cases bad

end Effects
end NewApi.Proof
