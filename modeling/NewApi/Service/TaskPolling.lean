import Mathlib.Data.List.Dedup
import NewApi.Library.Run
import NewApi.Service.TaskUpdate

/-!
# The polling subsystem

Any number of nodes run polling passes over one database. A pass sweeps the timed-out tasks, loads
the unfinished ones and takes the platforms in turn, video with one worker per channel, all at once,
and Suno channel by channel. The workers of a pass share the copies it has loaded.

One event is one step, with one statement or one billing call; failures, answers of the upstream and
the order of the steps are chosen by the events.
-/

namespace NewApi.Service
open Library Model

inductive WorkerStage where
  | waiting (taskIds : List String)
  | polling (taskIds : List String)
  | reading (items : List SunoDataResponse)

structure Worker where
  channelId : Int
  stage : WorkerStage

def Worker.isDone (worker : Worker) : Bool :=
  match worker.stage with
  | .waiting _ => false
  | .polling taskIds => taskIds.isEmpty
  | .reading items => items.isEmpty

def Worker.isWaiting (worker : Worker) : Bool :=
  match worker.stage with
  | .waiting _ => true
  | _ => false

abbrev Workers := Table Worker.channelId

inductive PassStage where
  | idle
  | sweeping (todo : List Int)
  | dispatching (platforms : List TaskPlatform)
  | updating (platform : TaskPlatform) (taskM : String → Option Int) (workers : Workers)
      (platforms : List TaskPlatform)

structure Pass where
  memory : TaskTable
  stage : PassStage

inductive Caller where
  | sweep (node : Nat)
  | worker (node : Nat) (channelId : Int)
deriving DecidableEq

def Caller.node : Caller → Nat
  | .sweep node => node
  | .worker node _ => node

inductive Operation where
  | bill (billing : TaskBilling)
  | save (refunded : Bool)
deriving DecidableEq

structure Call where
  caller : Caller
  taskId : Int
  operation : Operation
deriving DecidableEq

inductive BillingKind where
  | refund | settle
deriving DecidableEq

/-- One call of `RefundTaskQuota` or `settleTaskBillingOnComplete`, with the account and quota of
its task and whether it moved the funding source. -/
structure Billed where
  taskId : Int
  kind : BillingKind
  account : FundingAccount
  quota : Int
  paid : Bool

structure PollState where
  tasks : TaskTable
  billing : BillingStore
  passes : Nat → Pass
  calls : List Call
  log : List Billed

inductive PollEvent where
  | submit (task : Task)
  | startSweep (node : Nat) (now : Int) (fault : Option String)
  | sweepTask (node : Nat) (now : Int) (fault : Option String)
  | load (node : Nat) (fault : Option String)
  | dispatch (node : Nat) (platform : TaskPlatform) (fault : Option String)
  | getChannel (node : Nat) (channelId : Int) (found : Bool) (fault : Option String)
  | pollVideo (node : Nat) (channelId : Int) (now : Int) (reply : Option VideoReply) (fault : Option String)
  | fetchSuno (node : Nat) (channelId : Int) (items : List SunoDataResponse)
  | readSuno (node : Nat) (channelId : Int) (faults : Faults TaskBillingStatement String)
  | call (caller : Caller) (adjusted : Int) (fault : Option String) (faults : Faults TaskBillingStatement String)
  | cancel (node : Nat) (channelId : Int)
  | finish (node : Nat)

namespace PollState
variable (env : TaskPollingEnv) (state : PollState)

variable (node : Nat)

def setPass (pass : Pass) : PollState :=
  { state with passes := Function.update state.passes node pass }

def setTasks (tasks : TaskTable) : PollState := { state with tasks := tasks }

def busy (caller : Caller) : Bool := state.calls.any fun call => decide (call.caller = caller)

def leave (caller : Caller) (taskId : Int) (operation : Option Operation) : PollState :=
  match operation with
  | none => state
  | some operation => { state with calls := ⟨caller, taskId, operation⟩ :: state.calls }

def onTasks {α : Type} (program : TaskDb α) (fault : Option String) : Option (α × TaskTable) :=
  match program (fun _ => fault) state.tasks with
  | (.ok a, tasks) => some (a, tasks)
  | (.error _, _) => none

/-! ## The sweep -/

def submit (task : Task) : PollState :=
  state.setTasks (state.tasks.insert { task with status := .notStart, progress := "0%" })

def startSweep (now : Int) (fault : Option String) : Option PollState :=
  match (state.passes node).stage with
  | .idle =>
    if env.taskTimeoutMinutes ≤ 0 then none
    else do
      let (tasks, _) ← state.onTasks (getTimedOutUnfinishedTasks (now - env.taskTimeoutMinutes * 60) 100) fault
      some (state.setPass node ⟨tasks, .sweeping (tasks.rows.map Task.id)⟩)
  | _ => none

def sweepTask (now : Int) (fault : Option String) : Option PollState :=
  match (state.passes node).stage with
  | .sweeping (id :: todo) =>
    if state.busy (.sweep node) then none
    else do
      let task ← (state.passes node).memory.find? id
      let ((failed, due), tasks) ← state.onTasks (sweepTimedOutTask env now task) fault
      some (((state.setTasks tasks).setPass node ⟨(state.passes node).memory.save failed, .sweeping todo⟩).leave
        (.sweep node) task.id (due.map .bill))
  | _ => none

/-! ## A polling pass -/

def loads : Bool :=
  match (state.passes node).stage with
  | .idle => decide (env.taskTimeoutMinutes ≤ 0)
  | .sweeping [] => !state.busy (.sweep node)
  | _ => false

def load (fault : Option String) : Option PollState :=
  if !state.loads env node then none
  else do
    let (tasks, _) ← state.onTasks (getAllUnFinishSyncTasks env.taskQueryLimit) fault
    some (state.setPass node ⟨tasks, .dispatching (tasks.rows.map Task.platform).dedup⟩)

def taskM (tasks : List Task) (upstreamID : String) : Option Int :=
  (tasks.reverse.find? fun task => decide (task.getUpstreamTaskID = upstreamID)).map Task.id

def taskChannelM (tasks : List Task) : Workers where
  rows := (tasks.map Task.channelId).dedup.map fun channelId =>
    ⟨channelId, .waiting ((tasks.filter fun task => decide (task.channelId = channelId)).map Task.getUpstreamTaskID)⟩
  unique := by
    rw [List.map_map]
    exact (List.map_id _).symm ▸ List.nodup_dedup _

def nullTaskIds (memory : TaskTable) (platform : TaskPlatform) : List Int :=
  (memory.rows.filter fun task => decide (task.platform = platform ∧ task.getUpstreamTaskID = "")).map Task.id

def polledTasks (memory : TaskTable) (platform : TaskPlatform) : List Task :=
  memory.rows.filter fun task => decide (task.platform = platform ∧ task.getUpstreamTaskID ≠ "")

def dispatchedStage (memory : TaskTable) (platform : TaskPlatform) (rest : List TaskPlatform) : PassStage :=
  let tasks := polledTasks memory platform
  if tasks = [] ∨ platform = .midjourney then .dispatching rest
  else .updating platform (taskM tasks) (taskChannelM tasks) rest

def dispatch (platform : TaskPlatform) (fault : Option String) : Option PollState :=
  match (state.passes node).stage with
  | .dispatching platforms =>
    if platform ∉ platforms then none
    else do
      let memory := (state.passes node).memory
      let (_, rows) ← state.onTasks (Db.attempt (taskBulkUpdateByID (nullTaskIds memory platform) none)) fault
      some ((state.setTasks rows).setPass node
        ⟨memory, dispatchedStage memory platform (platforms.erase platform)⟩)
  | _ => none

/-! ## Workers -/

def setWorker (platform : TaskPlatform) (taskM : String → Option Int) (workers : Workers)
    (platforms : List TaskPlatform) (memory : TaskTable) (worker : Worker) : PollState :=
  state.setPass node ⟨memory, .updating platform taskM (workers.save worker) platforms⟩

def channelFailReason (platform : TaskPlatform) (channelId : Int) : String :=
  if platform = .suno then s!"获取渠道信息失败，请联系管理员，渠道ID：{channelId}"
  else s!"Failed to get channel info, channel ID: {channelId}"

def othersRest (workers : Workers) : Bool :=
  workers.rows.all fun worker => worker.isWaiting || (worker.isDone && !state.busy (.worker node worker.channelId))

def getChannel (channelId : Int) (found : Bool) (fault : Option String) : Option PollState :=
  match (state.passes node).stage with
  | .updating platform taskM workers platforms => do
    let worker ← workers.find? channelId
    match worker.stage with
    | .waiting taskIds =>
      if platform = .suno ∧ !state.othersRest node workers then none
      else if found then
        some (state.setWorker node platform taskM workers platforms (state.passes node).memory
          ⟨channelId, .polling taskIds⟩)
      else do
        let (_, rows) ← state.onTasks (Db.attempt (taskBulkUpdateByID (taskIds.filterMap taskM)
          (some (channelFailReason platform channelId)))) fault
        some ((state.setTasks rows).setWorker node platform taskM workers platforms (state.passes node).memory
          ⟨channelId, .polling []⟩)
    | _ => none
  | _ => none

def pollVideo (channelId : Int) (now : Int) (reply : Option VideoReply) (fault : Option String) :
    Option PollState :=
  match (state.passes node).stage with
  | .updating platform taskM workers platforms =>
    if platform = .suno ∨ state.busy (.worker node channelId) then none
    else do
      let worker ← workers.find? channelId
      match worker.stage with
      | .polling (upstreamID :: taskIds) =>
        let memory := (state.passes node).memory
        let next : Worker := ⟨channelId, .polling taskIds⟩
        match (taskM upstreamID).bind memory.find?, reply with
        | some task, some reply => do
          let ((updated, due), tasks) ← state.onTasks (updateVideoSingleTask env now task reply) fault
          some (((state.setTasks tasks).setWorker node platform taskM workers platforms (memory.save updated)
            next).leave (.worker node channelId) task.id (due.map .bill))
        | _, _ => some (state.setWorker node platform taskM workers platforms memory next)
      | _ => none
  | _ => none

def fetchSuno (channelId : Int) (items : List SunoDataResponse) : Option PollState :=
  match (state.passes node).stage with
  | .updating .suno taskM workers platforms => do
    let worker ← workers.find? channelId
    match worker.stage with
    | .polling (_ :: _) =>
      some (state.setWorker node .suno taskM workers platforms (state.passes node).memory
        ⟨channelId, .reading items⟩)
    | _ => none
  | _ => none

def refundTask (task : Task) (faults : Faults TaskBillingStatement String) : PollState :=
  let outcome := refundTaskQuota env.billing task faults state.billing
  let paid := match outcome.1 with
    | .ok paid => paid
    | .error _ => false
  { state with billing := outcome.2, log := ⟨task.id, .refund, taskAccount task, task.quota, paid⟩ :: state.log }

def readSuno (channelId : Int) (faults : Faults TaskBillingStatement String) : Option PollState :=
  match (state.passes node).stage with
  | .updating .suno taskM workers platforms =>
    if state.busy (.worker node channelId) then none
    else do
      let worker ← workers.find? channelId
      match worker.stage with
      | .reading (item :: items) =>
        let memory := (state.passes node).memory
        let next : Worker := ⟨channelId, .reading items⟩
        match (taskM item.taskID).bind memory.find? with
        | some task =>
          if taskNeedsUpdate task item then
            let updated := applySuno task item
            let refunded := if sunoFails task item then state.refundTask env updated faults else state
            some ((refunded.setWorker node .suno taskM workers platforms (memory.save updated) next).leave
              (.worker node channelId) task.id (some (.save (sunoFails task item))))
          else some (state.setWorker node .suno taskM workers platforms memory next)
        | none => some (state.setWorker node .suno taskM workers platforms memory next)
      | _ => none
  | _ => none

def cancel (channelId : Int) : Option PollState :=
  match (state.passes node).stage with
  | .updating platform taskM workers platforms =>
    if state.busy (.worker node channelId) then none
    else do
      let _ ← workers.find? channelId
      some (state.setWorker node platform taskM workers platforms (state.passes node).memory ⟨channelId, .polling []⟩)
  | _ => none

def finish : Option PollState :=
  match (state.passes node).stage with
  | .updating _ _ workers platforms =>
    if workers.rows.all Worker.isDone && !state.calls.any fun call => decide (call.caller.node = node) then
      some (state.setPass node ⟨(state.passes node).memory, .dispatching platforms⟩)
    else none
  | .dispatching _ => some (state.setPass node ⟨Table.empty, .idle⟩)
  | _ => none

/-! ## Calls -/

def hangUp (caller : Caller) : PollState :=
  { state with calls := state.calls.filter fun call => decide (call.caller ≠ caller) }

def setMemory (memory : TaskTable) : PollState :=
  state.setPass node ⟨memory, (state.passes node).stage⟩

def settleTask (task : Task) (adjusted totalTokens : Int) (fault : Option String)
    (faults : Faults TaskBillingStatement String) : PollState :=
  let outcome := settleTaskBillingOnComplete env.billing task adjusted totalTokens faults state.billing
  match outcome.1 with
  | .ok (some actualQuota) =>
    let charged := { task with quota := actualQuota }
    let rows := (charged.updateQuota (fun _ => fault) state.tasks).2
    { (state.setTasks rows).setMemory node ((state.passes node).memory.save charged) with
      billing := outcome.2
      log := ⟨task.id, .settle, taskAccount task, task.quota, true⟩ :: state.log }
  | _ => { state with
      billing := outcome.2
      log := ⟨task.id, .settle, taskAccount task, task.quota, false⟩ :: state.log }

def call (caller : Caller) (adjusted : Int) (fault : Option String) (faults : Faults TaskBillingStatement String) :
    Option PollState := do
  let call ← state.calls.find? fun call => decide (call.caller = caller)
  let task ← (state.passes caller.node).memory.find? call.taskId
  let ended := state.hangUp caller
  match call.operation with
  | .bill .refund => some (ended.refundTask env task faults)
  | .bill (.settle totalTokens) => some (ended.settleTask env caller.node task adjusted totalTokens fault faults)
  | .save _ => some (ended.setTasks (task.update (fun _ => fault) state.tasks).2)

def attempt (event : PollEvent) : Option PollState :=
  match event with
  | .submit task => some (state.submit task)
  | .startSweep node now fault => state.startSweep env node now fault
  | .sweepTask node now fault => state.sweepTask env node now fault
  | .load node fault => state.load env node fault
  | .dispatch node platform fault => state.dispatch node platform fault
  | .getChannel node channelId found fault => state.getChannel node channelId found fault
  | .pollVideo node channelId now reply fault => state.pollVideo env node channelId now reply fault
  | .fetchSuno node channelId items => state.fetchSuno node channelId items
  | .readSuno node channelId faults => state.readSuno env node channelId faults
  | .call caller adjusted fault faults => state.call env caller adjusted fault faults
  | .cancel node channelId => state.cancel node channelId
  | .finish node => state.finish node

def step (event : PollEvent) : PollState := (state.attempt env event).getD state

def start (tasks : TaskTable) (billing : BillingStore) : PollState :=
  ⟨tasks, billing, fun _ => ⟨Table.empty, .idle⟩, [], []⟩

end PollState
end NewApi.Service
