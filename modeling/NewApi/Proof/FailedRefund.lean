import NewApi.Proof.VideoBilling

/-! # A failed task has its quota back -/

namespace NewApi.Proof
open Library Model Service PollState Table

def Owed (row : Task) : Prop := row.status = .failure ∧ row.quota ≠ 0 ∧ isLegacy row = false

instance (row : Task) : Decidable (Owed row) := inferInstanceAs (Decidable (_ ∧ _))

def refundOf (task : Task) : Billed := ⟨task.id, .refund, taskAccount task, task.quota, true⟩

def RefundDue (state : PollState) (refund : Billed) : Prop :=
  ∃ call ∈ state.calls, call.operation = .bill .refund ∧
    ∃ copy, (state.passes call.caller.node).memory.find? call.taskId = some copy ∧ refundOf copy = refund

def polls : PassStage → Bool
  | .idle => false
  | .sweeping _ => false
  | .dispatching _ => true
  | .updating _ _ _ _ => true

def PassPaid (log : List Billed) (pass : Pass) : Prop :=
  polls pass.stage = true → ∀ copy ∈ pass.memory.rows, copy.platform = .suno → copy.status = .failure →
    copy.quota ≠ 0 → refundOf copy ∈ log

structure FailuresPaid (state : PollState) : Prop where
  known : Known state
  passes : ∀ node, PassPaid state.log (state.passes node)
  rows : ∀ id row, state.tasks.find? id = some row → Owed row →
    refundOf row ∈ state.log ∨ RefundDue state (refundOf row)

section Parts
variable {state after : PollState} {node : Nat} {pass : Pass} {id : Int} {refund : Billed} {task copy : Task}

theorem refundDue_setPass (due : RefundDue state refund) (kept : ∀ call ∈ state.calls, call.caller.node = node → ∀ copy,
      (state.passes node).memory.find? call.taskId = some copy → refundOf copy = refund →
      ∃ copy', pass.memory.find? call.taskId = some copy' ∧ refundOf copy' = refund) :
    RefundDue (state.setPass node pass) refund := by
  obtain ⟨call, mem, operation, copy, found, charged⟩ := due
  refine ⟨call, mem, operation, ?_⟩
  by_cases here : call.caller.node = node
  · obtain ⟨copy', found', charged'⟩ := kept call mem here copy (here ▸ found) charged
    exact ⟨copy', by simpa [here] using found', charged'⟩
  · exact ⟨copy, by simpa [here] using found, charged⟩

theorem refundDue_silent (silent : ∀ call ∈ state.calls, call.caller.node ≠ node) (due : RefundDue state refund) :
    RefundDue (state.setPass node pass) refund :=
  refundDue_setPass due fun call mem here => absurd here (silent call mem)

variable {stage : PassStage} {caller : Caller} {log : List Billed} {tasks : TaskTable}

theorem refundDue_memory (due : RefundDue state refund) :
    RefundDue (state.setPass node ⟨(state.passes node).memory, stage⟩) refund :=
  refundDue_setPass due fun _ _ _ copy found charged => ⟨copy, found, charged⟩

theorem refundDue_save (found : (state.passes node).memory.find? task.id = some task)
    (same : SameTask task copy) (quota : copy.quota = task.quota) (due : RefundDue state refund) :
    RefundDue (state.setPass node ⟨(state.passes node).memory.save copy, stage⟩) refund := by
  refine refundDue_setPass due fun _ _ _ _ looked charged => ?_
  obtain ⟨_, looked', -, rfl | ⟨rfl, rfl⟩⟩ := find?_save_same found same looked
  · exact ⟨_, looked', charged⟩
  · exact ⟨_, looked', by rw [← charged, refundOf, refundOf, same.id, same.account, quota]⟩

theorem refundDue_leave {other operation} (due : RefundDue state refund) :
    RefundDue (state.leave caller other operation) refund := by
  cases operation with
  | none => exact due
  | some =>
    obtain ⟨call, mem, rest⟩ := due
    exact ⟨call, List.mem_cons_of_mem _ mem, rest⟩

theorem refundDue_hangUp {call} (known : Known state)
    (placed : state.calls.find? (fun call => decide (call.caller = caller)) = some call)
    (other : call.operation ≠ .bill .refund) (due : RefundDue state refund) :
    RefundDue (state.hangUp caller) refund := by
  obtain ⟨call', mem, operation, rest⟩ := due
  exact ⟨call', mem_hangUp known placed mem fun sameCall => other (sameCall ▸ operation), operation, rest⟩

theorem passPaid_loaded {memory} (loaded : Loaded tasks memory) : PassPaid log ⟨memory, stage⟩ := by
  intro _ copy mem _ failed
  have notDone := unfinished_notDone (loaded copy mem).2
  rw [failed] at notDone
  cases notDone

theorem passPaid_stage (paid : PassPaid log pass) (polling : polls pass.stage = true) :
    PassPaid log ⟨pass.memory, stage⟩ := fun _ => paid polling

theorem passPaid_save (paid : PassPaid log pass) (polling : polls pass.stage = true)
    (covered : copy.platform = .suno → copy.status = .failure → copy.quota ≠ 0 →
    refundOf copy ∈ log) : PassPaid log ⟨pass.memory.save copy, stage⟩ := by
  intro _ other mem
  rcases mem_save.mp mem with ⟨rfl, -⟩ | ⟨old, -⟩
  · exact covered
  · exact paid polling other old

theorem failuresPaid_of (paid : FailuresPaid state) (known : Known after)
    (passes : ∀ node, PassPaid after.log (after.passes node)) (log : ∀ billed ∈ state.log, billed ∈ after.log)
    (due : ∀ id row, state.tasks.find? id = some row → Owed row → RefundDue state (refundOf row) →
      refundOf row ∈ after.log ∨ RefundDue after (refundOf row)) (rows :
        ∀ id row, after.tasks.find? id = some row → Owed row →
      (∃ old, state.tasks.find? id = some old ∧ Owed old ∧ refundOf old = refundOf row) ∨
        refundOf row ∈ after.log ∨ RefundDue after (refundOf row)) : FailuresPaid after where
  known := known
  passes := passes
  rows id row found owed := by
    rcases rows id row found owed with ⟨old, found', owed', same⟩ | new
    · rw [← same]
      rcases paid.rows id old found' owed' with refunded | pending
      · exact .inl (log _ refunded)
      · exact due id old found' owed' pending
    · exact new

theorem failuresPaid_pass (paid : FailuresPaid state) (known : Known (state.setPass node pass))
    (here : PassPaid state.log pass)
    (due : ∀ refund, RefundDue state refund → RefundDue (state.setPass node pass) refund) :
    FailuresPaid (state.setPass node pass) :=
  failuresPaid_of paid known (passes_setPass paid.passes here) (fun _ mem => mem)
    (fun _ row _ _ before => .inr (due (refundOf row) before)) fun _ row found owed => .inl ⟨row, found, owed, rfl⟩

theorem failuresPaid_moved {middle due} (copy : Task)
    (paid : FailuresPaid state) (known : Known (middle.leave caller task.id (due.map .bill)))
    (passes : ∀ node, PassPaid state.log (middle.passes node)) (log : middle.log = state.log)
    (pending : ∀ refund, RefundDue state refund → RefundDue middle refund)
    (saved : (middle.passes caller.node).memory.find? task.id = some copy)
    (outcome : middle.tasks = state.tasks ∨ (Won state.tasks copy task.status middle.tasks ∧
    (Owed copy → due = some .refund))) :
    FailuresPaid (middle.leave caller task.id (due.map .bill)) := by
  have kept : (middle.leave caller task.id (due.map .bill)).log = state.log := by rw [leave_log, log]
  refine failuresPaid_of paid known (fun node => ?_) (fun _ mem => kept ▸ mem)
    (fun _ row _ _ before => .inr (refundDue_leave (pending (refundOf row) before))) fun id row found owed => ?_
  · rw [kept, leave_passes]
    exact passes node
  · rw [leave_tasks] at found
    rcases outcome with unchanged | ⟨⟨old, stored, -, changed⟩, refunds⟩
    · exact .inl ⟨row, unchanged ▸ found, owed, rfl⟩
    · rw [changed, find?_save] at found
      split_ifs at found with same
      · rw [same, stored] at found
        cases found
        obtain rfl := refunds owed
        refine .inr (.inr ⟨⟨caller, task.id, .bill .refund⟩, List.mem_cons_self, rfl, copy, ?_, rfl⟩)
        rw [leave_passes]
        exact saved
      · exact .inl ⟨row, found, owed, rfl⟩

def Closable (row : Task) : Prop := row.quota = 0 ∨ isLegacy row = true ∨ row.status = .failure

theorem owed_closed {ids rows row} (closed : Closed ids tasks rows)
    (closable : ∀ id ∈ ids, ∀ row, tasks.find? id = some row → Closable row) (found : rows.find? id = some row)
    (owed : Owed row) : ∃ old, tasks.find? id = some old ∧ Owed old ∧ refundOf old = refundOf row := by
  rcases closed with rfl | ⟨failReason, changed⟩
  · exact ⟨row, found, owed, rfl⟩
  · rw [changed] at found
    obtain ⟨old, stored, same⟩ := Option.map_eq_some_iff.mp found
    refine ⟨old, stored, ?_⟩
    split_ifs at same with among
    · subst same
      obtain ⟨-, ne, recent⟩ := owed
      rcases closable id among old stored with zero | legacy | failed
      · exact absurd zero ne
      · exact absurd (legacy.symm.trans recent) (by simp)
      · exact ⟨⟨failed, ne, recent⟩, rfl⟩
    · subst same
      exact ⟨owed, rfl⟩

theorem mem_refundTask_log {env faults} (ran : (refundTaskQuota env.billing task faults state.billing).1 = .ok true) :
    refundOf task ∈ (state.refundTask env task faults).log := by
  simp [refundTask, refundOf, ran]

theorem dueFor_owed {due} (dueFor : DueFor copy due) (owed : Owed copy) : due = some .refund := by
  unfold DueFor at dueFor
  rw [owed.1] at dueFor
  exact dueFor.trans (if_pos owed.2.1)

end Parts

/-! ## Runs -/

def NextItem (state : PollState) (node : Nat) (channelId : Int) (task : Task) (item : SunoDataResponse) : Prop :=
  ∃ taskM workers platforms worker items, (state.passes node).stage = .updating .suno taskM workers platforms ∧
    workers.find? channelId = some worker ∧ worker.stage = .reading (item :: items) ∧
    taskM item.taskID = some task.id ∧ (state.passes node).memory.find? task.id = some task ∧
    taskNeedsUpdate task item = true

structure Covered (env : TaskPollingEnv) (state : PollState) (event : PollEvent) : Prop where
  missing : ∀ node platform fault, event = .dispatch node platform fault →
    ∀ id ∈ nullTaskIds (state.passes node).memory platform, ∀ row, state.tasks.find? id = some row → Closable row
  channel : ∀ node channelId fault platform taskM workers platforms worker taskIds,
    event = .getChannel node channelId false fault →
    (state.passes node).stage = .updating platform taskM workers platforms → workers.find? channelId = some worker →
    worker.stage = .waiting taskIds → ∀ id ∈ taskIds.filterMap taskM, ∀ row, state.tasks.find? id =
      some row → Closable row
  refund : ∀ caller adjusted fault faults call copy, event = .call caller adjusted fault faults → call ∈ state.calls →
    call.caller = caller → call.operation = .bill .refund →
    (state.passes caller.node).memory.find? call.taskId = some copy → copy.quota ≠ 0 →
    (refundTaskQuota env.billing copy faults state.billing).1 = .ok true
  read : ∀ node channelId faults task item, event = .readSuno node channelId faults →
    NextItem state node channelId task item → sunoFails task item = true → task.quota ≠ 0 →
    (refundTaskQuota env.billing (applySuno task item) faults state.billing).1 = .ok true
  settle : ∀ caller adjusted fault faults call totalTokens row, event = .call caller adjusted fault faults →
    call ∈ state.calls → call.caller = caller → call.operation = .bill (.settle totalTokens) →
    state.tasks.find? call.taskId = some row → row.status ≠ .failure

section Runs
variable {env : TaskPollingEnv} {state after : PollState} {event : PollEvent}

theorem failuresPaid_effect (paid : FailuresPaid state) (covered : Covered env state event)
    (effect : Effect env state event after) : FailuresPaid after := by
  have known := known_effect paid.known effect
  cases effect with
  | submit =>
    refine failuresPaid_of paid known paid.passes (fun _ mem => mem) (fun _ _ _ _ due => .inr due) ?_
    intro id row found owed
    obtain ⟨mem, sameId⟩ := find?_eq_some.mp found
    rcases mem_insert mem with old | rfl
    · exact .inl ⟨row, find?_eq_some.mpr ⟨old, sameId⟩, owed, rfl⟩
    · exact absurd owed.1 (by simp)
  | startSweep idle loaded =>
    exact failuresPaid_pass paid known (passPaid_loaded loaded) fun _ => refundDue_silent (silent_idle paid.known idle)
  | @sweepTask node now _ task _ due _ stage free copy swept =>
    have same : SameTask task (timedOut env now task) := ⟨rfl, rfl, rfl, rfl⟩
    have silent := silent_sweep paid.known stage free
    refine failuresPaid_moved (timedOut env now task) paid known
      (passes_setPass paid.passes fun bad => ?_) rfl (fun refund due => ?_) ?_ ?_
    · cases bad
    · exact refundDue_silent silent due
    · rw [Caller.node, setPass_self]
      exact find?_saved copy same
    · rcases swept with ⟨-, unchanged⟩ | ⟨won, refunds⟩
      · exact .inl unchanged
      · refine .inr ⟨won, fun owed => ?_⟩
        obtain ⟨-, ne, recent⟩ : _ ∧ task.quota ≠ 0 ∧ isLegacy task = false := owed
        rw [refunds, if_pos (by simp [ne, recent])]
  | @load _ _ _ _ ready _ loaded =>
    exact failuresPaid_pass paid known (passPaid_loaded loaded) fun _ => refundDue_silent (silent_load paid.known ready)
  | @dispatch node platform fault _ _ stage mem closed =>
    refine failuresPaid_of paid known (passes_setPass paid.passes
      (passPaid_stage (paid.passes node) (by rw [stage]; rfl)))
      (fun _ mem => mem) (fun _ _ _ _ due => .inr (refundDue_memory due)) fun id row found owed => .inl ?_
    exact owed_closed closed (covered.missing node platform fault rfl) found owed
  | @work event node platform taskM workers platforms old next stage found shrinks
  | @nextPlatform node _ _ _ _ stage =>
    exact failuresPaid_pass paid known (passPaid_stage (paid.passes node) (by rw [stage]; rfl))
      fun _ => refundDue_memory
  | @closeChannel node channelId fault platform taskM workers platforms old taskIds _ stage found waiting closed =>
    refine failuresPaid_of paid known (passes_setPass paid.passes
      (passPaid_stage (paid.passes node) (by rw [stage]; rfl)))
      (fun _ mem => mem) (fun _ _ _ _ due => .inr (refundDue_memory due)) fun id row stored owed => .inl ?_
    exact owed_closed closed (covered.channel node channelId fault platform taskM workers platforms
      old taskIds rfl stage
      found waiting) stored owed
  | @pollVideo node _ _ _ _ platform _ _ _ _ _ _ _ updated due
    _ stage video _ _ _ target copy same quota outcome =>
    obtain ⟨here, -⟩ := target_platform paid.known stage target copy
    have polling' : polls (state.passes node).stage = true := by rw [stage]; rfl
    refine failuresPaid_moved updated paid known
      (passes_setPass paid.passes (passPaid_save (paid.passes node) polling' ?_)) rfl (fun refund due => ?_) ?_ ?_
    · intro suno
      exact absurd (here.symm.trans (same.platform.symm.trans suno)) video
    · exact refundDue_save copy same quota due
    · rw [Caller.node, setWorker, setPass_self]
      exact find?_saved copy same
    · rcases outcome with ⟨unchanged, -⟩ | ⟨won, dueFor⟩ | ⟨unchanged, -⟩
      · exact .inl unchanged
      · exact .inr ⟨won, dueFor_owed dueFor⟩
      · exact .inl unchanged
  | @readSuno node channelId faults taskM workers platforms old item items task stage _ found reading target copy
    needed =>
    have same : SameTask task (applySuno task item) := ⟨rfl, rfl, rfl, rfl⟩
    have polling : polls (state.passes node).stage = true := by rw [stage]; rfl
    by_cases fails : sunoFails task item = true
    · rw [fails, if_pos rfl] at known ⊢
      have logged (ne : task.quota ≠ 0) := mem_refundTask_log (covered.read node channelId faults task item rfl
        ⟨taskM, workers, platforms, old, items, stage, found, reading, target, copy, needed⟩ fails ne)
      have before (node : Nat) : PassPaid (state.refundTask env (applySuno task item) faults).log (state.passes node) :=
        fun polling other among suno failed ne =>
          List.mem_cons_of_mem _ (paid.passes node polling other among suno failed ne)
      have saved : PassPaid (state.refundTask env (applySuno task item) faults).log
        ⟨(state.passes node).memory.save (applySuno task item),
            .updating .suno taskM (workers.save ⟨channelId, .reading items⟩) platforms⟩ :=
        passPaid_save (before node) polling fun _ _ ne => logged ne
      refine failuresPaid_of paid known (passes_setPass before saved) (fun _ mem => List.mem_cons_of_mem _ mem)
        (fun id row _ _ due => .inr (refundDue_leave ?_)) fun _ row found owed => .inl ⟨row, found, owed, rfl⟩
      exact refundDue_save copy same rfl due
    · rw [if_neg fails] at known ⊢
      refine failuresPaid_of paid known (passes_setPass paid.passes (passPaid_save (paid.passes node) polling ?_))
        (fun _ mem => mem) (fun id row _ _ due => .inr (refundDue_leave ?_))
        fun _ row found owed => .inl ⟨row, found, owed, rfl⟩
      · intro _ failed
        exact absurd (by simp [sunoFails, show sunoStatus task item = .failure from failed]) fails
      · exact refundDue_save copy same rfl due
  | @refund caller adjusted fault faults call task placed operation copy =>
    obtain ⟨mem, sameCaller⟩ := placed_mem placed
    have sameId := (find?_eq_some.mp copy).2
    refine failuresPaid_of paid known (fun node polling other among suno failed ne => ?_)
      (fun _ mem => List.mem_cons_of_mem _ mem) (fun id row found owed due => ?_)
      fun _ row found owed => .inl ⟨row, found, owed, rfl⟩
    · exact List.mem_cons_of_mem _ (paid.passes node polling other among suno failed ne)
    · obtain ⟨call', member', refund, copy', found', charged⟩ := due
      by_cases same : call' = call
      · subst same
        rw [sameCaller] at found'
        obtain rfl : task = copy' := Option.mem_unique copy found'
        have ne : task.quota ≠ 0 := by
          rw [show task.quota = row.quota from congrArg Billed.quota charged]
          exact owed.2.1
        rw [← charged]
        exact .inl (mem_refundTask_log (covered.refund caller adjusted fault faults call' task rfl mem sameCaller
          operation copy ne))
      · exact .inr ⟨call', mem_hangUp paid.known placed member' same, refund, copy', found', charged⟩
  | @settle caller adjusted fault faults call task totalTokens placed operation copy =>
    obtain ⟨mem, sameCaller⟩ := placed_mem placed
    obtain ⟨video, _, _, _, stage⟩ := settle_stage paid.known placed copy operation
    have sameId := (find?_eq_some.mp copy).2
    have pending (refund : Billed) (due : RefundDue state refund) : RefundDue (state.hangUp caller) refund :=
      refundDue_hangUp paid.known placed (by simp [operation]) due
    have polling : polls (state.passes caller.node).stage = true := by rw [stage]; rfl
    have before (paidOut : Bool) (node : Nat) :
        PassPaid (⟨task.id, .settle, taskAccount task, task.quota, paidOut⟩ :: state.log) (state.passes node) :=
      fun polling other among suno failed ne =>
        List.mem_cons_of_mem _ (paid.passes node polling other among suno failed ne)
    rcases settleTask_cases env (state.hangUp caller) caller.node task adjusted totalTokens fault faults with
      ⟨billing, paidOut, same | ⟨actualQuota, same⟩⟩
    · rw [same] at known ⊢
      exact failuresPaid_of paid known (before paidOut) (fun _ mem => List.mem_cons_of_mem _ mem)
        (fun _ row _ _ due => .inr (pending (refundOf row) due)) fun _ row found owed => .inl ⟨row, found, owed, rfl⟩
    · rw [same] at known ⊢
      have unfailed (row : Task) (found : state.tasks.find? task.id = some row) : row.status ≠ .failure :=
        covered.settle caller adjusted fault faults call totalTokens row rfl mem sameCaller operation (sameId ▸ found)
      refine failuresPaid_of paid known ?_ (fun _ mem => List.mem_cons_of_mem _ mem)
        (fun id row found owed due => .inr ?_) fun id row found owed => .inl ?_
      · refine passes_setPass (before paidOut) (passPaid_save (before paidOut caller.node) polling ?_)
        exact fun suno => absurd suno video
      · have other : id ≠ task.id := by
          rintro rfl
          exact unfailed row found owed.1
        refine refundDue_setPass (pending (refundOf row) due) fun call' _ _ copy looked charged => ⟨copy, ?_, charged⟩
        have elsewhere : call'.taskId ≠ task.id := by
          rw [← (find?_eq_some.mp looked).2, show copy.id = row.id from congrArg Billed.taskId charged,
            (find?_eq_some.mp found).2]
          exact other
        rw [find?_save, if_neg elsewhere]
        exact looked
      · rw [updateQuota_eq] at found
        obtain ⟨old, stored, changed⟩ := Option.map_eq_some_iff.mp found
        split_ifs at changed with here
        · subst changed
          exact absurd owed.1 (unfailed old (here.2 ▸ stored))
        · exact ⟨old, stored, changed ▸ owed, changed ▸ rfl⟩
  | @save caller _ _ _ _ task _ placed operation copy =>
    obtain ⟨suno, _, _, _, stage⟩ := save_stage paid.known placed copy operation
    have polling : polls (state.passes caller.node).stage = true := by rw [stage]; rfl
    refine failuresPaid_of paid known paid.passes (fun _ mem => mem)
      (fun _ row _ _ due => .inr (refundDue_hangUp paid.known placed (by simp [operation]) due))
      fun _ row found owed => ?_
    rw [setTasks_tasks, update_eq] at found
    split_ifs at found
    · rw [find?_save] at found
      split_ifs at found with same
      · obtain ⟨-, -, rfl⟩ := Option.map_eq_some_iff.mp found
        refine .inr (.inl ?_)
        exact paid.passes caller.node polling task (find?_eq_some.mp copy).1 suno owed.1 owed.2.1
      · exact .inl ⟨row, found, owed, rfl⟩
    · exact .inl ⟨row, found, owed, rfl⟩
  | endPass stage =>
    refine failuresPaid_pass paid known (fun bad => ?_) fun _ => refundDue_silent (silent_dispatching paid.known stage)
    cases bad

theorem failuresPaid_start {tasks} (unowed : ∀ row ∈ tasks.rows, ¬Owed row) (billing) :
    FailuresPaid (.start tasks billing) where
  known := known_start tasks billing
  passes _ bad := nomatch bad
  rows _ row found owed := absurd owed (unowed row (find?_eq_some.mp found).1)

theorem failuresPaid_step (state event) (paid : FailuresPaid state)
    (covered : Covered env state event) : FailuresPaid (state.step env event) :=
  step_of_effect paid fun _ effect => failuresPaid_effect paid covered effect

end Runs

theorem failedTask_refunded (env : TaskPollingEnv) (tasks : TaskTable) (billing : BillingStore)
    (history : List PollEvent) (unowed : ∀ row ∈ tasks.rows, ¬Owed row)
    (covered : Along (step env) (Covered env) (.start tasks billing) history) (id : Int) (row : Task)
    (found : (run (step env) (.start tasks billing) history).tasks.find? id = some row) (owed : Owed row)
    (completed : ∀ call ∈ (run (step env) (.start tasks billing) history).calls, call.taskId ≠ id) :
    ∃ first event second, history = first ++ event :: second ∧
      (let before := run (step env) (.start tasks billing) first
       before.billing.fundingDebit (before.step env event).billing (taskAccount row) =
         netDebit before.billing (-row.quota) (taskAccount row)) ∧
      refundOf row ∈ (run (step env) (.start tasks billing) history).log := by
  have paid := run_invariant failuresPaid_step (failuresPaid_start unowed billing) covered
  have refunded : refundOf row ∈ (run (step env) (.start tasks billing) history).log := by
    rcases paid.rows id row found owed with refunded | ⟨call, mem, -, copy, looked, same⟩
    · exact refunded
    · refine absurd ?_ (completed call mem)
      rw [← (find?_eq_some.mp looked).2, show copy.id = row.id from congrArg Billed.taskId same]
      exact (find?_eq_some.mp found).2
  obtain ⟨first, event, second, split, moved⟩ := paidRefund_moved refunded rfl rfl
  exact ⟨first, event, second, split, moved, refunded⟩

def sweepEnv : TaskPollingEnv := { pollEnv with taskTimeoutMinutes := 10 }

def sweepPass : List PollEvent :=
  [.startSweep 0 100000 none, .sweepTask 0 100000 none, .call (.sweep 0) 0 none fun _ => none]

theorem failedTask_refunded_sweep :
    let final := run (step sweepEnv) (.start (klingTasks "a" "b") walletStore) sweepPass
    final.tasks.find? 1 = some (timedOut sweepEnv 100000 (klingTask 1 "a")) ∧
      refundOf (timedOut sweepEnv 100000 (klingTask 1 "a")) ∈ final.log := by
  have found : (run (step sweepEnv) (.start (klingTasks "a" "b") walletStore) sweepPass).tasks.find? 1 =
      some (timedOut sweepEnv 100000 (klingTask 1 "a")) := rfl
  have covered : Along (step sweepEnv) (Covered sweepEnv) (.start (klingTasks "a" "b") walletStore) sweepPass := by
    refine ⟨⟨by simp, by simp, by simp, by simp, by simp⟩, ⟨by simp, by simp, by simp, by simp, by simp⟩,
      ⟨by simp, by simp, ?_, by simp, ?_⟩, trivial⟩
    · rintro _ _ _ _ call copy ⟨⟩ mem _ _ looked _
      have only : call ∈ [(⟨.sweep 0, 1, .bill .refund⟩ : Call)] := mem
      obtain rfl := List.mem_singleton.mp only
      obtain rfl : timedOut sweepEnv 100000 (klingTask 1 "a") = copy := Option.some.inj looked
      rfl
    · rintro _ _ _ _ call _ _ ⟨⟩ mem _ settles
      have only : call ∈ [(⟨.sweep 0, 1, .bill .refund⟩ : Call)] := mem
      rw [List.mem_singleton.mp only] at settles
      cases settles
  obtain ⟨-, -, -, -, -, refunded⟩ := failedTask_refunded sweepEnv (klingTasks "a" "b") walletStore sweepPass
    (by decide) covered 1 _ found (by decide) (by decide)
  exact ⟨found, refunded⟩

theorem failed_without_refund :
    let final := run (step pollEnv) (.start (empty.insert (klingTask 1 "")) walletStore)
      [.load 0 none, .dispatch 0 (.video "kling") none, .finish 0]
    (∃ row, final.tasks.find? 1 = some row ∧ Owed row) ∧ final.calls = [] ∧ final.log = [] ∧
      (final.passes 0).stage = .idle ∧ final.billing = walletStore :=
  ⟨⟨_, rfl, by decide⟩, rfl, rfl, rfl, rfl⟩

end NewApi.Proof
