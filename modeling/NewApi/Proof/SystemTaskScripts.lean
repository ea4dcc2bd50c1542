import NewApi.Model.SystemTask

/-! # What the calls on system tasks may do -/

namespace NewApi.Proof
open Library Model List Script
variable {id now : Int} {type : String} {task : SystemTask}

abbrev SystemTaskPast := List (Entry SystemTaskStatement SystemTaskStatement.Answer String)

def Began (past : SystemTaskPast) (now : Int) : Prop := past.head? = some ⟨.getTimestamp, .ok now⟩

def Selected (past : SystemTaskPast) (id : Int) (type : String) (task : SystemTask) : Prop :=
  ⟨.findPending id type, .ok (some task)⟩ ∈ past

def Took (past : SystemTaskPast) (lock : SystemTaskLock) : Prop :=
  ⟨.createLock lock, .ok ()⟩ ∈ past ∨ ∃ now rows, rows ≠ 0 ∧ ⟨.takeOverLock lock now, .ok rows⟩ ∈ past

def SetRunning (past : SystemTaskPast) : Prop :=
  ∃ id type runnerId now rows, rows ≠ 0 ∧ ⟨.setRunning id type runnerId now, .ok rows⟩ ∈ past

def Released (past : SystemTaskPast) : Prop := ∃ taskId lockedBy answer, ⟨.releaseLock taskId lockedBy, answer⟩ ∈ past

structure Claiming (past : SystemTaskPast) (id : Int) (type : String) (task : SystemTask) (now : Int) : Prop where
  began : Began past now
  selected : Selected past id type task
  waiting : ¬SetRunning past
  holding : ¬Released past

variable (call : SystemTaskCall) (past : SystemTaskPast)

def MayTake (lock : SystemTaskLock) : Prop :=
  ∃ id task now, call = .claim id lock.type lock.lockedBy lock.lockedUntil ∧ lock.taskId = task.taskId ∧
    Claiming past id lock.type task now

def MayRelease (taskId lockedBy : String) : Prop :=
  call = .release taskId lockedBy ∨
  (∃ id type lockUntil task, call = .claim id type lockedBy lockUntil ∧ Selected past id type task ∧
    task.taskId = taskId ∧ ¬SetRunning past) ∨
  ∃ status result error now rows, call = .finish taskId lockedBy status result error ∧ rows ≠ 0 ∧
    ⟨.finishTask taskId lockedBy status result error now, .ok rows⟩ ∈ past

def TaskMayRun : SystemTaskStatement → Prop
  | .createTask task => task.status = .pending ∧ task.activeKey = some task.type
  | .setRunning id type runnerId _ => ∃ lock task now, call =
      .claim id type runnerId lock.lockedUntil ∧ lock.type = type ∧
      lock.lockedBy = runnerId ∧ lock.taskId = task.taskId ∧ Claiming past id type task now ∧ Took past lock
  | .updateState taskId lockedBy state now => call = .updateState taskId lockedBy state ∧ Began past now
  | .finishTask taskId lockedBy status result error now =>
      call = .finish taskId lockedBy status result error ∧ Began past now
  | .createLock lock => MayTake call past lock
  | .takeOverLock lock now => MayTake call past lock ∧ Began past now
  | .renewLock taskId lockedBy _ lockUntil => call = .renew taskId lockedBy lockUntil
  | .deleteStaleLock lock now => call = .expireStale now ∧ ∃ marked, ⟨.markExpired lock.taskId marked, .ok ()⟩ ∈ past
  | .releaseLock taskId lockedBy => MayRelease call past taskId lockedBy
  | _ => True

def TaskReturns (result : Except String (Option SystemTask)) : Prop :=
  match call with
  | .claim id _ _ _ => ∀ task, result = .ok (some task) → SetRunning past ∧ ⟨.findTask id, .ok (some task)⟩ ∈ past
  | _ => True

def Aside : SystemTaskStatement → Prop
  | .setRunning _ _ _ _ | .releaseLock _ _ => False
  | _ => True

section Past
variable {past later : SystemTaskPast}

theorem began_mono (early : past <+: later) (began : Began past now) : Began later now := by
  obtain ⟨_, rfl⟩ := early
  cases past with
  | nil => cases began
  | cons => exact began

theorem claiming_append (claiming : Claiming past id type task now) (statement answer) (aside : Aside statement) :
    Claiming (past ++ [⟨statement, answer⟩]) id type task now where
  began := began_mono (prefix_append past _) claiming.began
  selected := mem_append_left _ claiming.selected
  waiting := by
    rintro ⟨id, type, runnerId, now, rows, some, mem⟩
    rcases mem_append.mp mem with old | new
    · exact claiming.waiting ⟨id, type, runnerId, now, rows, some, old⟩
    · cases mem_singleton.mp new
      exact aside
  holding := by
    rintro ⟨taskId, lockedBy, answer, mem⟩
    rcases mem_append.mp mem with old | new
    · exact claiming.holding ⟨taskId, lockedBy, answer, old⟩
    · cases mem_singleton.mp new
      exact aside

theorem took_mono (grows : past ⊆ later) {lock} (took : Took past lock) : Took later lock := by
  rcases took with created | ⟨now, rows, some, mem⟩
  · exact .inl (grows created)
  · exact .inr ⟨now, rows, some, grows mem⟩

end Past

section Scripts
variable {call : SystemTaskCall} {past : SystemTaskPast} {runnerId : String} {lockUntil : Int}

abbrev TaskRuns (call : SystemTaskCall) {α : Type} (returns : SystemTaskPast → Except String α →
    Prop) (past : SystemTaskPast)
    (script : SystemTaskScript α) : Prop := script.Conforms (TaskMayRun call) returns past

theorem taskRuns_query {statement} (may : TaskMayRun call past statement) :
    TaskRuns call (fun later answer => later = past ++ [⟨statement, answer⟩]) past (SystemTask.query statement) :=
  conforms_statement may fun _ => rfl

theorem taskRuns_mark (taskId : String) :
    TaskRuns call (fun later result => past <+: later ∧
      (∀ id type task now, Claiming past id type task now → Claiming later id type task now) ∧
      (result = .ok () → ∃ marked, ⟨.markExpired taskId marked, .ok ()⟩ ∈ later)) past
        (SystemTask.markSystemTaskLeaseExpired taskId) := by
  refine conforms_bind (taskRuns_query trivial) ?_ ?_
  · rintro _ marked rfl
    refine conforms_mono (taskRuns_query trivial) ?_
    rintro _ result rfl
    refine ⟨(prefix_append _ _).trans (prefix_append _ _), fun _ _ _ _ claiming => ?_, ?_⟩
    · exact claiming_append (claiming_append claiming .getTimestamp (.ok marked) trivial)
        (.markExpired taskId marked) result trivial
    · rintro rfl
      exact ⟨marked, by simp⟩
  · rintro _ reason rfl
    exact ⟨prefix_append past _, fun _ _ _ _ claiming =>
      claiming_append claiming .getTimestamp (.error reason) trivial, by simp⟩

theorem taskRuns_acquire (claiming : Claiming past id type task now) :
    TaskRuns (.claim id type runnerId lockUntil) (fun later result => Claiming later id type task now ∧ ∀ expired,
      result = .ok (some expired) → Took later ⟨type, task.taskId, runnerId, lockUntil, now⟩) past
      (SystemTask.acquireSystemTaskLock type task.taskId runnerId now lockUntil) := by
  have may : MayTake (.claim id type runnerId lockUntil) past ⟨type, task.taskId, runnerId, lockUntil, now⟩ :=
    ⟨id, task, now, rfl, rfl, claiming⟩
  refine ⟨may, fun created => ?_⟩
  have tried := claiming_append claiming (.createLock ⟨type, task.taskId, runnerId, lockUntil, now⟩) created trivial
  cases created with
  | ok => exact ⟨tried, fun _ _ => .inl (by simp)⟩
  | error reason =>
    refine ⟨trivial, fun found => ?_⟩
    have looked := claiming_append tried (.findLock type) found trivial
    rcases found with reason | _ | existing
    · exact ⟨looked, by simp⟩
    · exact ⟨looked, by simp⟩
    · change TaskRuns _ _ _ (if _ then _ else _)
      split_ifs with fresh
      · exact ⟨looked, by simp⟩
      · refine ⟨⟨⟨id, task, now, rfl, rfl, looked⟩, looked.began⟩, fun rows => ?_⟩
        have taken := claiming_append looked (.takeOverLock
          ⟨type, task.taskId, runnerId, lockUntil, now⟩ now) rows trivial
        cases rows with
        | error => exact ⟨taken, by simp⟩
        | ok rows =>
          change TaskRuns _ _ _ (if _ then _ else _)
          split_ifs with none
          · exact ⟨taken, by simp⟩
          · exact ⟨taken, fun _ _ => .inr ⟨now, rows, none, by simp⟩⟩

theorem taskRuns_giveUp (selected : Selected past id type task) (waiting : ¬SetRunning past)
    {result} (unclaimed : ∀ task, result ≠ .ok (some task)) :
    TaskRuns (.claim id type runnerId lockUntil) (TaskReturns (.claim id type runnerId lockUntil)) past
      (SystemTask.giveUp task.taskId runnerId result) :=
  ⟨.inr (.inl ⟨id, type, lockUntil, task, rfl, selected, rfl, waiting⟩), fun _ task same =>
    absurd same (unclaimed task)⟩

theorem taskRuns_setRunning (claiming : Claiming past id type task now)
    (took : Took past ⟨type, task.taskId, runnerId, lockUntil, now⟩) :
    TaskRuns (.claim id type runnerId lockUntil) (TaskReturns (.claim id type runnerId lockUntil)) past
      (SystemTask.setRunning id type task runnerId now) := by
  refine ⟨⟨⟨type, task.taskId, runnerId, lockUntil, now⟩, task, now, rfl, rfl, rfl, rfl, claiming,
    took⟩, fun rows => ?_⟩
  have selected : Selected (past ++ [⟨.setRunning id type runnerId now, rows⟩]) id type task :=
    mem_append_left _ claiming.selected
  have waiting (none : ∀ some, rows = .ok some → some = 0) :
    ¬SetRunning (past ++ [⟨.setRunning id type runnerId now, rows⟩]) := by
    rintro ⟨other, otherType, otherRunner, otherNow, hit, some, mem⟩
    rcases mem_append.mp mem with old | new
    · exact claiming.waiting ⟨other, otherType, otherRunner, otherNow, hit, some, old⟩
    · cases mem_singleton.mp new
      exact some (none hit rfl)
  cases rows with
  | error => exact taskRuns_giveUp selected (waiting (by simp)) (by simp)
  | ok rows =>
    change TaskRuns _ _ _ (if _ then _ else _)
    split_ifs with none
    · exact taskRuns_giveUp selected (waiting (by rintro some ⟨⟩; exact none)) (by simp)
    · refine ⟨trivial, fun found => ?_⟩
      have running : SetRunning (past ++ [⟨.setRunning id type runnerId now, .ok rows⟩] ++ [⟨.findTask id, found⟩]) :=
        ⟨id, type, runnerId, now, rows, none, by simp⟩
      rcases found with reason | _ | found
      · rintro _ ⟨⟩
      · rintro _ ⟨⟩
      · rintro _ ⟨⟩
        exact ⟨running, by simp⟩

theorem taskRuns_claim (id : Int) (type runnerId : String) (lockUntil : Int) :
    TaskRuns (.claim id type runnerId lockUntil) (TaskReturns (.claim id type runnerId lockUntil)) []
      (SystemTask.claimSystemTask id type runnerId lockUntil) := by
  refine ⟨trivial, fun clock => ?_⟩
  cases clock with
  | error => rintro task ⟨⟩
  | ok now =>
    refine ⟨trivial, fun found => ?_⟩
    rcases found with reason | _ | task
    · rintro _ ⟨⟩
    · rintro _ ⟨⟩
    · have claiming : Claiming [⟨.getTimestamp, .ok now⟩, ⟨.findPending id type, .ok (some task)⟩] id type task now :=
        ⟨rfl, by simp [Selected], by simp [SetRunning], by simp [Released]⟩
      change TaskRuns _ _ _ (SystemTask.acquireSystemTaskLock type task.taskId runnerId now lockUntil >>= _)
      refine conforms_bind (taskRuns_acquire claiming) ?_ fun _ _ _ task same => by cases same
      rintro past (_ | expired) ⟨claiming, took⟩
      · rintro _ ⟨⟩
      · change TaskRuns _ _ _ (if _ then _ else _)
        split_ifs
        · have marked : TaskRuns (.claim id type runnerId lockUntil)
            (fun later _ => past <+: later ∧ Claiming later id type task now)
              past (SystemTask.markSystemTaskLeaseExpired expired).attempt :=
            conforms_andThen (taskRuns_mark expired) fun _ _ ret => ⟨ret.1, ret.2.1 id type task now claiming⟩
          refine conforms_bind marked ?_ fun _ _ _ _ same => by cases same
          rintro _ (_ | _) ⟨early, claiming⟩
          · exact taskRuns_giveUp claiming.selected claiming.waiting (by simp)
          · exact taskRuns_setRunning claiming (took_mono early.subset (took expired rfl))
        · exact taskRuns_setRunning claiming (took expired rfl)

theorem taskRuns_none {script : SystemTaskScript Unit} (unclaimed : ∀ id type runnerId lockUntil,
    call ≠ .claim id type runnerId lockUntil)
    (runs : TaskRuns call (fun _ _ => True) [] script) :
    TaskRuns call (TaskReturns call) [] ((fun _ => (none : Option SystemTask)) <$> script) := by
  have ret (past : SystemTaskPast) (result : Except String (Option SystemTask)) : TaskReturns call past result := by
    cases call with
    | claim id type runnerId lockUntil => exact absurd rfl (unclaimed id type runnerId lockUntil)
    | _ => trivial
  exact conforms_bind runs (fun past _ _ => ret past _) fun past _ _ => ret past _

theorem taskRuns_guarded (statement : Int → SystemTaskStatement)
    (may : ∀ now, TaskMayRun call [⟨.getTimestamp, .ok now⟩] (statement now))
    {rest : (now : Int) → (statement now).Answer → SystemTaskScript Unit}
    (runs : ∀ now rows, TaskRuns call (fun _ _ => True)
    [⟨.getTimestamp, .ok now⟩, ⟨statement now, .ok rows⟩] (rest now rows)) :
    TaskRuns call (fun _ _ => True) [] (do
      let now ← SystemTask.query .getTimestamp
      let rows ← SystemTask.query (statement now)
      rest now rows) := by
  refine ⟨trivial, fun clock => ?_⟩
  cases clock with
  | error => trivial
  | ok now =>
    refine ⟨may now, fun rows => ?_⟩
    cases rows with
    | error => trivial
    | ok rows => exact runs now rows

theorem taskRuns_expireLocks (now : Int) (locks past) :
    TaskRuns (.expireStale now) (fun _ _ => True) past (SystemTask.expireLocks now locks) := by
  induction locks generalizing past with
  | nil => trivial
  | cons lock _ ih =>
    refine Script.conforms_bind (taskRuns_mark lock.taskId) ?_ fun _ _ _ => trivial
    rintro _ _ ⟨-, -, marked⟩
    refine conforms_bind (taskRuns_query ⟨rfl, marked rfl⟩) (fun last _ _ => ih last) fun _ _ _ => trivial

theorem taskRuns_call (call : SystemTaskCall) : TaskRuns call (TaskReturns call) [] call.script := by
  cases call with
  | create =>
    refine taskRuns_none (by simp) (conforms_bind (taskRuns_query trivial) ?_ fun _ _ _ => trivial)
    exact fun past now _ => conforms_mono (taskRuns_query ⟨rfl, rfl⟩) fun _ _ _ => trivial
  | claim id type runnerId lockUntil => exact taskRuns_claim id type runnerId lockUntil
  | renew taskId lockedBy lockUntil =>
    refine taskRuns_none (by simp) (taskRuns_guarded (fun now =>
      .renewLock taskId lockedBy now lockUntil) (fun _ => rfl) fun _ rows => ?_)
    split_ifs <;> trivial
  | updateState taskId lockedBy state =>
    refine taskRuns_none (by simp) (taskRuns_guarded (fun now =>
      .updateState taskId lockedBy state now) (fun _ => ⟨rfl, rfl⟩) fun _ rows => ?_)
    split_ifs <;> trivial
  | finish taskId lockedBy status result error =>
    refine taskRuns_none (by simp) (taskRuns_guarded (fun now => .finishTask taskId lockedBy status result error now)
      (fun _ => ⟨rfl, rfl⟩) fun now rows => ?_)
    split_ifs with none
    · trivial
    · exact ⟨.inr (.inr ⟨status, result, error, now, rows, rfl, none, by simp⟩), fun _ => trivial⟩
  | release => exact taskRuns_none (by simp) (conforms_mono (taskRuns_query (.inl rfl)) fun _ _ _ => trivial)
  | markExpired taskId => exact taskRuns_none (by simp) (conforms_mono (taskRuns_mark taskId) fun _ _ _ => trivial)
  | expireStale now =>
    refine taskRuns_none (by simp) (conforms_bind (taskRuns_query trivial)
      (fun past locks _ => ?_) fun _ _ _ => trivial)
    exact taskRuns_expireLocks now locks past

end Scripts
end NewApi.Proof
