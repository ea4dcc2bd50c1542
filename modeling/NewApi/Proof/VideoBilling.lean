import NewApi.Proof.TaskBillings

/-! # A video task is billed at most once -/

namespace NewApi.Proof
open Library Model Service PollState Table List
variable {task copy : Task} {env : TaskPollingEnv} {state after : PollState}

/-! ## Distinct upstream ids -/

def Distinct (memory : TaskTable) (platform : TaskPlatform) : Prop :=
  ((polledTasks memory platform).map Task.getUpstreamTaskID).Nodup

def DistinctVideos (memory : TaskTable) (platforms : List TaskPlatform) : Prop :=
  ∀ name, .video name ∈ platforms → Distinct memory (.video name)

def pendingOf (workers : Workers) : List String := workers.rows.flatMap pendingIds

def PendingOnce (memory : TaskTable) (taskM : String → Option Int) (workers : Workers) : Prop :=
  (pendingOf workers).Nodup ∧ ∀ upstreamID ∈ pendingOf workers, ∀ id copy, taskM upstreamID = some id →
    memory.find? id = some copy → copy.status.isDone = false

def PassDistinct (pass : Pass) : Prop :=
  match pass.stage with
  | .idle => True
  | .sweeping _ => True
  | .dispatching platforms => DistinctVideos pass.memory platforms
  | .updating platform taskM workers platforms => DistinctVideos pass.memory platforms ∧
      (platform ≠ .suno → PendingOnce pass.memory taskM workers)

section Passes
variable {memory : TaskTable} {platform : TaskPlatform} {platforms : List TaskPlatform} {taskM : String → Option Int}
    {workers : Workers} {old next : Worker}

theorem pendingOf_save (found : workers.find? next.channelId = some old) :
    ∃ before after, pendingOf workers = before ++ pendingIds old ++ after ∧
      pendingOf (workers.save next) = before ++ pendingIds next ++ after := by
  obtain ⟨before, after, rows, saved⟩ := rows_save found
  refine ⟨before.flatMap pendingIds, after.flatMap pendingIds, ?_, ?_⟩
  · simp [pendingOf, rows]
  · simp [pendingOf, saved]

theorem pendingOf_sublist (found : workers.find? next.channelId = some old)
    (shrinks : (pendingIds next).Sublist (pendingIds old)) :
    (pendingOf (workers.save next)).Sublist (pendingOf workers) := by
  obtain ⟨_, _, rows, saved⟩ := pendingOf_save found
  rw [rows, saved]
  exact ((List.Sublist.refl _).append shrinks).append (List.Sublist.refl _)

theorem pendingOnce_work (once : PendingOnce memory taskM workers) (found : workers.find? next.channelId = some old)
    (shrinks : (pendingIds next).Sublist (pendingIds old)) : PendingOnce memory taskM (workers.save next) := by
  have fewer := pendingOf_sublist found shrinks
  exact ⟨once.1.sublist fewer, fun upstreamID mem => once.2 upstreamID (fewer.subset mem)⟩

theorem pendingOf_taken {upstreamID} (distinct : (pendingOf workers).Nodup)
    (found : workers.find? next.channelId = some old) (taken : pendingIds old = upstreamID :: pendingIds next) :
    upstreamID ∉ pendingOf (workers.save next) := by
  obtain ⟨before, after, rows, saved⟩ := pendingOf_save found
  rw [rows, taken] at distinct
  rw [saved]
  have moved : (before ++ upstreamID :: pendingIds next ++ after).Perm
    (upstreamID :: (before ++ pendingIds next ++ after)) := by
    simp [perm_middle]
  exact (nodup_cons.mp (moved.nodup_iff.mp distinct)).1

theorem distinct_save (found : memory.find? task.id = some task) (same : SameTask task copy)
    (distinct : Distinct memory platform) : Distinct (memory.save copy) platform := by
  have found' : memory.find? copy.id = some task := by rw [same.id, found]
  obtain ⟨_, _, rows, saved⟩ := rows_save found'
  unfold Distinct polledTasks at distinct ⊢
  rw [rows] at distinct
  rw [saved]
  simpa [filter_append, filter_cons, same.platform, same.upstream,
    apply_ite (List.map Task.getUpstreamTaskID)] using distinct

theorem distinctVideos_save (found : memory.find? task.id = some task) (same : SameTask task copy)
    (distinct : DistinctVideos memory platforms) : DistinctVideos (memory.save copy) platforms :=
  fun name mem => distinct_save found same (distinct name mem)

theorem pendingOf_taskChannelM {tasks} (distinct : (tasks.map Task.getUpstreamTaskID).Nodup) :
    (pendingOf (taskChannelM tasks)).Nodup := by
  have flat : pendingOf (taskChannelM tasks) = (tasks.map Task.channelId).dedup.flatMap fun channelId =>
      (tasks.filter fun task => decide (task.channelId = channelId)).map Task.getUpstreamTaskID := by
    simp [pendingOf, taskChannelM, flatMap_map, pendingIds]
  rw [flat, nodup_flatMap]
  constructor
  · intro _ _
    exact distinct.sublist (filter_sublist.map _)
  · refine (nodup_dedup _).imp fun ne => ?_
    rw [Function.onFun, disjoint_left]
    intro _ first second
    obtain ⟨task, mem, here⟩ := mem_map.mp first
    obtain ⟨other, member', there⟩ := mem_map.mp second
    obtain ⟨among, channel⟩ := mem_filter.mp mem
    obtain ⟨among', channel'⟩ := mem_filter.mp member'
    obtain rfl : task = other := inj_on_of_nodup_map distinct among among' (here.trans there.symm)
    exact ne ((of_decide_eq_true channel).symm.trans (of_decide_eq_true channel'))

theorem passDistinct_dispatch (known : PassKnown ⟨memory, .dispatching platforms⟩)
    (distinct : PassDistinct ⟨memory, .dispatching platforms⟩) (mem : platform ∈ platforms) :
    PassDistinct ⟨memory, dispatchedStage memory platform (platforms.erase platform)⟩ := by
  have rest : DistinctVideos memory (platforms.erase platform) := fun name among =>
    distinct name (mem_of_mem_erase among)
  unfold dispatchedStage
  dsimp only
  split_ifs with skipped
  · exact rest
  · have videos (video : platform ≠ .suno) : Distinct memory platform := by
      cases platform with
      | suno => exact absurd rfl video
      | midjourney => exact absurd (.inr rfl) skipped
      | video name => exact distinct name mem
    refine ⟨rest, fun video => ⟨pendingOf_taskChannelM (videos video), ?_⟩⟩
    intro _ _ _ copy target found
    obtain ⟨other, among, sameId, -⟩ := taskM_eq_some target
    obtain ⟨stored, samePlatform, -⟩ := mem_polledTasks.mp among
    obtain rfl : copy = other := Option.mem_unique found (find?_eq_some.mpr ⟨stored, sameId⟩)
    exact known.2 copy stored (samePlatform ▸ mem)

theorem passDistinct_work (distinct : PassDistinct ⟨memory, .updating platform taskM workers platforms⟩)
    (found : workers.find? next.channelId = some old) (shrinks : (pendingIds next).Sublist (pendingIds old)) :
    PassDistinct ⟨memory, .updating platform taskM (workers.save next) platforms⟩ :=
  ⟨distinct.1, fun video => pendingOnce_work (distinct.2 video) found shrinks⟩

theorem passDistinct_poll {upstreamID} (known : PassKnown ⟨memory, .updating platform taskM workers platforms⟩)
    (distinct : PassDistinct ⟨memory, .updating platform taskM workers platforms⟩)
    (worker : workers.find? next.channelId = some old) (taken : pendingIds old = upstreamID :: pendingIds next)
    (target : taskM upstreamID = some task.id) (found : memory.find? task.id = some task) (same : SameTask task copy) :
    PassDistinct ⟨memory.save copy, .updating platform taskM (workers.save next) platforms⟩ := by
  refine ⟨distinctVideos_save found same distinct.1, fun video => ?_⟩
  have shrinks : (pendingIds next).Sublist (pendingIds old) := by
    rw [taken]
    exact sublist_cons_self _ _
  have once := distinct.2 video
  have after := pendingOnce_work once worker shrinks
  refine ⟨after.1, fun upstreamID' pending id other target' looked => ?_⟩
  -- Another id leads to another copy, since a copy carries the id that leads to it.
  have ne : id ≠ task.id := by
    rintro rfl
    obtain ⟨first, foundFirst, -, carries⟩ := known.2.2 upstreamID task.id target
    obtain ⟨second, foundSecond, -, carries'⟩ := known.2.2 upstreamID' task.id target'
    obtain rfl : first = second := Option.mem_unique foundFirst foundSecond
    exact pendingOf_taken once.1 worker taken (carries.symm.trans carries' ▸ pending)
  rw [find?_save, same.id, if_neg ne] at looked
  exact after.2 upstreamID' pending id other target' looked

theorem passDistinct_charge (distinct : PassDistinct ⟨memory, .updating platform taskM workers platforms⟩)
    (found : memory.find? task.id = some task) (same : SameTask task copy) (status : copy.status = task.status) :
    PassDistinct ⟨memory.save copy, .updating platform taskM workers platforms⟩ := by
  refine ⟨distinctVideos_save found same distinct.1, fun video => ⟨(distinct.2 video).1, ?_⟩⟩
  intro upstreamID pending id other target looked
  have once := (distinct.2 video).2 upstreamID pending id
  rw [find?_save, same.id] at looked
  split_ifs at looked with sameId
  · subst sameId
    rw [found] at looked
    cases looked
    rw [status]
    exact once task target found
  · exact once other target looked

end Passes
/-! ## Billings -/

abbrev VideoTask : TaskTable → Int → Prop := OnPlatform (· ≠ .suno)

structure BilledOnce (state : PollState) : Prop where
  known : Known state
  distinct : ∀ node, PassDistinct (state.passes node)
  once : ∀ id, VideoTask state.tasks id → billings state id ≤ 1
  done : ∀ id, VideoTask state.tasks id → 0 < billings state id →
    ∃ row, state.tasks.find? id = some row ∧ row.status.isDone = true

section Billings

theorem billedOnce_of (billed : BilledOnce state) (known : Known after)
    (distinct : ∀ node, PassDistinct (after.passes node)) (keeps : Keeps state.tasks after.tasks)
    (fewer : ∀ id, VideoTask after.tasks id → billings after id ≤ billings state id)
    (done : ∀ id row, VideoTask after.tasks id → state.tasks.find? id = some row → row.status.isDone = true →
      ∃ row', after.tasks.find? id = some row' ∧ row'.status.isDone = true) : BilledOnce after where
  known := known
  distinct := distinct
  once id video := (fewer id video).trans (billed.once id (onPlatform_kept keeps video))
  done id video some := by
    obtain ⟨row, found, closed⟩ := billed.done id (onPlatform_kept keeps video)
      (Nat.lt_of_lt_of_le some (fewer id video))
    exact done id row video found closed

theorem billedOnce_won (billed : BilledOnce state) (known : Known after)
    (distinct : ∀ node, PassDistinct (after.passes node)) (keeps : Keeps state.tasks after.tasks)
    (won : Won state.tasks copy task.status after.tasks) (sameId : copy.id = task.id)
    (waiting : task.status.isDone = false) (others : ∀ id, id ≠ task.id → billings after id = billings state id)
    (one : billings after task.id ≤ billings state task.id + 1)
    (closes : billings state task.id < billings after task.id → copy.status.isDone = true) : BilledOnce after := by
  obtain ⟨row, found, status, saved⟩ := won
  have unbilled (video : VideoTask state.tasks task.id) : billings state task.id = 0 := by
    by_contra some
    obtain ⟨row', found', closed⟩ := billed.done task.id video (Nat.pos_of_ne_zero some)
    obtain rfl : row = row' := Option.mem_unique (sameId ▸ found) found'
    rw [status, waiting] at closed
    cases closed
  refine ⟨known, distinct, fun id video => ?_, fun id video some => ?_⟩
  · by_cases same : id = task.id
    · subst same
      have zero := unbilled (onPlatform_kept keeps video)
      omega
    · rw [others id same]
      exact billed.once id (onPlatform_kept keeps video)
  · by_cases same : id = task.id
    · subst same
      have zero := unbilled (onPlatform_kept keeps video)
      refine ⟨copy, ?_, closes (by omega)⟩
      rw [saved, find?_save, if_pos sameId.symm, ← sameId, found]
      rfl
    · rw [others id same] at some
      obtain ⟨row', found', closed⟩ := billed.done id (onPlatform_kept keeps video) some
      exact ⟨row', by rw [saved, find?_save, if_neg (sameId ▸ same), found'], closed⟩

variable {middle : PollState} {caller : Caller} {pass : Pass}

theorem billedOnce_moved {due} (billed : BilledOnce state) (known : Known (middle.leave caller task.id (due.map .bill)))
    (distinct : ∀ node, PassDistinct (middle.passes node)) (calls : middle.calls = state.calls)
    (log : middle.log = state.log) (keeps : Keeps state.tasks middle.tasks) (sameId : copy.id = task.id)
    (waiting : task.status.isDone = false) (outcome : (middle.tasks = state.tasks ∧ due = none) ∨
      (Won state.tasks copy task.status middle.tasks ∧ (copy.status.isDone = false → due = none))) :
    BilledOnce (middle.leave caller task.id (due.map .bill)) := by
  have same (id : Int) : billings middle id = billings state id := by rw [billings, billings, calls, log]
  have passes (node : Nat) : PassDistinct ((middle.leave caller task.id (due.map .bill)).passes node) := by
    rw [leave_passes]
    exact distinct node
  rcases outcome with ⟨unchanged, rfl⟩ | ⟨_, final⟩
  · refine billedOnce_of billed known passes keeps (fun id _ => (same id).le) fun _ row _ found done => ⟨row, ?_, done⟩
    exact unchanged ▸ found
  · refine billedOnce_won billed known passes (by rwa [leave_tasks]) (by rwa [leave_tasks]) sameId waiting
      (fun _ ne => ?_) ?_ fun more => ?_
    · rw [billings_leave, if_neg fun both => ne both.2, same, Nat.add_zero]
    · rw [billings_leave, same]
      exact Nat.add_le_add_left (by split_ifs <;> omega) _
    · by_contra notDone
      obtain rfl := final (by simpa using notDone)
      rw [Option.map_none, PollState.leave, same] at more
      exact lt_irrefl _ more

theorem billedOnce_suno {operation} (billed : BilledOnce state)
    (known : Known (middle.leave caller task.id operation)) (distinct : ∀ node, PassDistinct (middle.passes node))
    (tasks : middle.tasks = state.tasks) (suno : ¬VideoTask state.tasks task.id)
    (others : ∀ id, id ≠ task.id → billings middle id = billings state id) :
    BilledOnce (middle.leave caller task.id operation) := by
  have same : (middle.leave caller task.id operation).tasks = state.tasks := by rw [leave_tasks, tasks]
  refine billedOnce_of billed known ?_ (same ▸ keeps_refl _) (fun id video => ?_) ?_
  · intro node
    rw [leave_passes]
    exact distinct node
  · have other : id ≠ task.id := by
      rintro rfl
      exact suno (same ▸ video)
    rw [billings_leave, if_neg fun both => other both.2, others id other, Nat.add_zero]
  · intro _ row _ found done
    exact ⟨row, same ▸ found, done⟩

theorem done_closed {ids tasks rows id row} (closed : Closed ids tasks rows)
    (found : tasks.find? id = some row) (done : row.status.isDone = true) :
    ∃ row', rows.find? id = some row' ∧ row'.status.isDone = true := by
  rcases closed with rfl | ⟨failReason, changed⟩
  · exact ⟨row, found, done⟩
  · rw [changed, found]
    refine ⟨_, rfl, ?_⟩
    split_ifs
    · rfl
    · exact done

theorem billedOnce_pass {node} (billed : BilledOnce state) (known : Known (state.setPass node pass))
    (here : PassDistinct pass) :
    BilledOnce (state.setPass node pass) :=
  billedOnce_of billed known (passes_setPass billed.distinct here) (keeps_refl _) (fun _ _ => le_rfl)
    fun _ row _ found done => ⟨row, found, done⟩

theorem passDistinct_of_stage {stage} (distinct : PassDistinct pass)
    (same : pass.stage = stage) : PassDistinct ⟨pass.memory, stage⟩ := by
  subst same
  exact distinct

end Billings
/-! ## Runs -/

def LoadsDistinct (env : TaskPollingEnv) (state : PollState) (event : PollEvent) : Prop :=
  ∀ node fault, event = .load node fault → ∀ memory rows,
    state.onTasks (getAllUnFinishSyncTasks env.taskQueryLimit) fault = some (memory, rows) →
    ∀ name, Distinct memory (.video name)

section Runs
variable {event : PollEvent}

theorem suno_not_video {node id task} (known : Known state)
    (found : (state.passes node).memory.find? id = some task) (suno : task.platform = .suno) :
    ¬VideoTask state.tasks task.id := fun video => platform_of_copy known found video suno

theorem billedOnce_effect (billed : BilledOnce state) (loads : LoadsDistinct env state event)
    (effect : Effect env state event after) : BilledOnce after := by
  have known := known_effect billed.known effect
  cases effect with
  | submit =>
    exact billedOnce_of billed known billed.distinct (keeps_insert _) (fun _ _ => le_rfl)
      fun id row _ found done => ⟨row, find?_insert_of_some found, done⟩
  | startSweep idle loaded | endPass stage => exact billedOnce_pass billed known trivial
  | @sweepTask node now _ task _ _ rows stage _ copy swept =>
    have same : SameTask task (timedOut env now task) := ⟨rfl, rfl, rfl, rfl⟩
    have keeps : Keeps state.tasks rows := by
      rcases swept with ⟨-, rfl⟩ | ⟨won, -⟩
      · exact keeps_refl _
      · exact keeps_won billed.known copy same won
    have waiting := (passKnown_of_stage (billed.known.passes node) stage).2 task.id (by simp) task copy
    refine billedOnce_moved billed known (passes_setPass billed.distinct ?_) rfl rfl keeps same.id waiting ?_
    · exact trivial
    · rcases swept with ⟨nothing, unchanged⟩ | ⟨won, -⟩
      · exact .inl ⟨unchanged, nothing⟩
      · exact .inr ⟨won, fun open_ => nomatch open_⟩
  | @load node fault memory rows _ queried =>
    exact billedOnce_pass billed known fun name _ => loads node fault rfl memory rows queried name
  | @dispatch node _ _ _ _ stage mem closed =>
    refine billedOnce_of billed known (passes_setPass billed.distinct ?_) (keeps_closed closed) (fun _ _ => le_rfl)
      fun id row _ found done => done_closed closed found done
    exact passDistinct_dispatch (passKnown_of_stage (billed.known.passes node) stage)
      (passDistinct_of_stage (billed.distinct node) stage) mem
  | @work _ node _ _ _ _ _ _ stage found shrinks =>
    exact billedOnce_pass billed known (passDistinct_work
      (passDistinct_of_stage (billed.distinct node) stage) found shrinks)
  | @closeChannel node _ _ _ _ _ _ _ _ _ stage found _ closed =>
    refine billedOnce_of billed known (passes_setPass billed.distinct ?_) (keeps_closed closed) (fun _ _ => le_rfl)
      fun id row _ found done => done_closed closed found done
    exact passDistinct_work (passDistinct_of_stage (billed.distinct node) stage) found (nil_sublist _)
  | @pollVideo node channelId _ _ _ _ _ _ _ old upstreamID taskIds task _ _
    rows stage video _ found polling target copy same _ outcome =>
    have keeps : Keeps state.tasks rows := by
      rcases outcome with ⟨rfl, -⟩ | ⟨won, -⟩ | ⟨rfl, -⟩
      · exact keeps_refl _
      · exact keeps_won billed.known copy same won
      · exact keeps_refl _
    have taken : pendingIds old = upstreamID :: pendingIds ⟨channelId, .polling taskIds⟩ := by
      rw [pendingIds, polling, pendingIds]
    have waiting : task.status.isDone = false := by
      have once := (passDistinct_of_stage (billed.distinct node) stage).2 video
      refine once.2 upstreamID ?_ task.id task target copy
      exact mem_flatMap.mpr ⟨old, (find?_eq_some.mp found).1, by simp [taken]⟩
    refine billedOnce_moved billed known (passes_setPass billed.distinct ?_) rfl rfl keeps same.id waiting ?_
    · exact passDistinct_poll (passKnown_of_stage (billed.known.passes node) stage)
        (passDistinct_of_stage (billed.distinct node) stage) found taken target copy same
    · rcases outcome with ⟨unchanged, nothing⟩ | ⟨won, dueFor⟩ | ⟨unchanged, status, dueFor⟩
      · exact .inl ⟨unchanged, nothing⟩
      · exact .inr ⟨won, fun notDone => dueFor_open notDone dueFor⟩
      · exact .inl ⟨unchanged, dueFor_open (status ▸ waiting) dueFor⟩
  | @readSuno node channelId faults taskM workers platforms _ item items task stage _ _ reading target copy
    _ =>
    obtain ⟨suno, -⟩ := target_platform billed.known stage target copy
    have same : SameTask task (applySuno task item) := ⟨rfl, rfl, rfl, rfl⟩
    have pass : PassDistinct ⟨(state.passes node).memory.save (applySuno task item),
        .updating .suno taskM (workers.save ⟨channelId, .reading items⟩) platforms⟩ :=
      ⟨distinctVideos_save copy same (passDistinct_of_stage (billed.distinct node) stage).1,
        fun video => absurd rfl video⟩
    have notVideo := suno_not_video billed.known copy suno
    by_cases fails : sunoFails task item = true
    · rw [fails, if_pos rfl] at known ⊢
      refine billedOnce_suno billed known (passes_setPass billed.distinct pass) rfl notVideo fun id other => ?_
      have counted := billings_refundTask env state (applySuno task item) faults id
      rwa [same.id, if_neg (Ne.symm other)] at counted
    · rw [if_neg fails] at known ⊢
      exact billedOnce_suno billed known (passes_setPass billed.distinct pass) rfl notVideo fun _ _ => rfl
  | @refund _ _ _ _ _ _ placed operation copy =>
    refine billedOnce_of billed known billed.distinct (keeps_refl _)
      (fun id _ => ?_) fun id row _ found done => ⟨row, found, done⟩
    exact billings_logged placed (by rw [operation]; rfl) (find?_eq_some.mp copy).2 (by rfl) (by rfl) id
  | @settle caller adjusted fault faults call task totalTokens placed operation copy =>
    obtain ⟨-, _, _, _, stage⟩ := settle_stage billed.known placed copy operation
    have sameId := (find?_eq_some.mp copy).2
    have bill : bills call.operation = true := by rw [operation]; rfl
    rcases settleTask_cases env (state.hangUp caller) caller.node task adjusted totalTokens fault faults with
      ⟨billing, paid, same | ⟨actualQuota, same⟩⟩
    · rw [same] at known ⊢
      exact billedOnce_of billed known billed.distinct (keeps_refl _)
        (fun id _ => billings_logged placed bill sameId (by rfl) (by rfl) id)
        fun id row _ found done => ⟨row, found, done⟩
    · rw [same] at known ⊢
      refine billedOnce_of billed known (passes_setPass billed.distinct ?_) (keeps_updateQuota _)
        (fun id _ => billings_logged placed bill sameId (by rfl) (by rfl) id) fun id row _ found done => ?_
      · have pass := passDistinct_of_stage (billed.distinct caller.node) stage
        have charged : SameTask task { task with quota := actualQuota } := ⟨rfl, rfl, rfl, rfl⟩
        have distinct := passDistinct_charge pass (sameId ▸ copy) charged rfl
        rw [← stage] at distinct
        exact distinct
      · obtain ⟨_, found', rfl | ⟨-, rfl⟩⟩ := find?_updateQuota { task with quota := actualQuota } found
        · exact ⟨_, found', done⟩
        · exact ⟨_, found', done⟩
  | @save _ _ fault _ _ task _ placed operation copy =>
    obtain ⟨suno, -⟩ := save_stage billed.known placed copy operation
    have notVideo := suno_not_video billed.known copy suno
    have keeps : Keeps state.tasks (task.update (fun _ => fault) state.tasks).2 := keeps_update billed.known copy
    refine billedOnce_of billed known billed.distinct keeps (fun id _ => ?_) fun id row video found done => ?_
    · exact (Nat.le_add_right _ _).trans (billings_hangUp placed id)
    · have other : id ≠ task.id := by
        rintro rfl
        exact notVideo (onPlatform_kept keeps video)
      refine ⟨row, ?_, done⟩
      rw [setTasks_tasks, update_eq]
      split_ifs
      · rw [find?_save, if_neg other, found]
      · exact found
  | @nextPlatform node _ _ _ _ stage => exact billedOnce_pass billed known (passDistinct_of_stage (billed.distinct node) stage).1

theorem billedOnce_start (tasks billing) : BilledOnce (.start tasks billing) where
  known := known_start tasks billing
  distinct _ := trivial
  once _ _ := Nat.zero_le _
  done _ _ some := absurd some (Nat.lt_irrefl 0)

theorem billedOnce_step (state event) (billed : BilledOnce state)
    (loads : LoadsDistinct env state event) : BilledOnce (state.step env event) :=
  step_of_effect billed fun _ effect => billedOnce_effect billed loads effect

end Runs

theorem videoTask_billed_once (env : TaskPollingEnv) (tasks : TaskTable) (billing : BillingStore)
    (history : List PollEvent) (distinct : Along (step env) (LoadsDistinct env) (.start tasks billing) history)
    (id : Int) (video : VideoTask (run (step env) (.start tasks billing) history).tasks id) :
    (run (step env) (.start tasks billing) history).log.countP (fun billed => decide (billed.taskId = id)) ≤ 1 := by
  have billed := run_invariant billedOnce_step (billedOnce_start tasks billing) distinct
  exact (Nat.le_add_left _ _).trans (billed.once id video)

/-! ## One upstream id for two tasks -/

def pollEnv : TaskPollingEnv where
  billing := ⟨⟨false, fun _ => none, fun _ => none⟩, fun _ => "key", fun _ _ => none⟩
  taskTimeoutMinutes := 0
  taskQueryLimit := 100
  buildProxyURL taskID := taskID

def klingTask (id : Int) (upstreamID : String) : Task where
  id := id
  taskID := upstreamID
  platform := .video "kling"
  userId := 1
  channelId := 5
  quota := 10
  status := .inProgress
  progress := "30%"

def klingTasks (first second : String) : TaskTable := (empty.insert (klingTask 1 first)).insert (klingTask 2 second)

def failureReply : VideoReply := ⟨⟨.failure, "bad", "", "", 0⟩, [], .unrecognized⟩

def klingPass : List PollEvent :=
  [.load 0 none, .dispatch 0 (.video "kling") none, .getChannel 0 5 true none,
    .pollVideo 0 5 100 (some failureReply) none, .call (.worker 0 5) 0 none (fun _ => none),
    .pollVideo 0 5 101 (some failureReply) none, .call (.worker 0 5) 0 none (fun _ => none)]

theorem videoTask_billed_once_pass : (run (step pollEnv) (.start (klingTasks "a" "b") walletStore) klingPass).log.countP
      (fun billed => decide (billed.taskId = 1)) ≤ 1 := by
  refine videoTask_billed_once pollEnv (klingTasks "a" "b") walletStore klingPass ?_ 1 ?_
  · refine ⟨?_, ?_, ?_, ?_, ?_, ?_, ?_, trivial⟩
    · rintro _ _ ⟨⟩ memory rows queried _
      obtain rfl : klingTasks "a" "b" = memory := congrArg Prod.fst (Option.some.inj queried)
      have loaded : ((klingTasks "a" "b").rows.map Task.getUpstreamTaskID).Nodup := by decide
      exact loaded.sublist (filter_sublist.map _)
    all_goals exact fun _ _ bad => nomatch bad
  · decide +kernel

theorem refund_twice_shared_upstream :
    let final := run (step pollEnv) (.start (klingTasks "a" "a") walletStore) klingPass
    VideoTask final.tasks 2 ∧ final.log = [⟨2, .refund, .user 1, 10, true⟩, ⟨2, .refund, .user 1, 10, true⟩] ∧
      final.billing.accounts.userBalance 1 = walletStore.accounts.userBalance 1 + 20 := by
  exact ⟨by decide +kernel, rfl, rfl⟩

end NewApi.Proof
