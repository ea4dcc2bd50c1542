import NewApi.Proof.SystemTaskStatements
import NewApi.Service.SystemTaskRunner

/-! # Running tasks and their locks -/

namespace NewApi.Proof
open Library Model Service SystemTaskDb SystemTaskRace List
variable {race : SystemTaskRace} {rowId lockUntil : Int} {type runnerId taskId : String}

def Prompt (race : SystemTaskRace) : SystemTaskEvent → Prop
  | .advance id _ => ∀ rowId type runnerId lockUntil past now next,
      race.threads id = some ⟨.claim rowId type runnerId lockUntil, past,
        .call (.setRunning rowId type runnerId now) next⟩ →
        race.shared.clock ≤ lockUntil
  | _ => True

/-! ## The invariant -/

def RanFor (race : SystemTaskRace) (taskId runnerId : String) : Prop :=
  ∃ id rowId type lockUntil past rest, race.threads id =
    some ⟨.claim rowId type runnerId lockUntil, past, rest⟩ ∧ SetRunning past ∧
    ∃ row ∈ race.shared.tasks.rows, row.id = rowId ∧ row.taskId = taskId

def Employed (race : SystemTaskRace) : SystemTaskCall → Prop
  | .renew taskId lockedBy _ | .finish taskId lockedBy _ _ _ => RanFor race taskId lockedBy
  | .release _ _ | .markExpired _ => False
  | _ => True

def Bounded (since : Int) (task : SystemTask) (call : SystemTaskCall) (past : SystemTaskPast) : Prop :=
  match call with
  | .claim id type _ _ => type = task.type → (∃ found, Selected past id type found) →
      ∀ now, Began past now → now ≤ since
  | .expireStale now => (∃ marked, ⟨.markExpired task.taskId marked, .ok ()⟩ ∈ past) → now ≤ since
  | .renew taskId _ lockUntil => taskId = task.taskId → since ≤ lockUntil
  | _ => True

structure Covers (race : SystemTaskRace) (since : Int) (task : SystemTask) (lock : SystemTaskLock) : Prop where
  started : since ≤ race.shared.clock
  member : lock ∈ race.shared.locks.rows
  type : lock.type = task.type
  taskId : lock.taskId = task.taskId
  lockedBy : lock.lockedBy = task.lockedBy
  lasts : since ≤ lock.lockedUntil
  bounded : ∀ id thread, race.threads id = some thread → Bounded since task thread.call thread.past

structure TasksOrderly (race : SystemTaskRace) : Prop where
  sound : RaceSound race
  threads : ∀ id thread, race.threads id = some thread → TaskThread race.shared thread.call thread.past
  employed : ∀ id thread, race.threads id = some thread → Employed race thread.call
  sequential : ∀ runnerId id other, Claims race runnerId id → Claims race runnerId other → id = other
  exclusive : ∀ id rowId type runnerId lockUntil past statement next other type' lockUntil' past' rest task,
    race.threads id = some ⟨.claim rowId type runnerId lockUntil, past, .call statement next⟩ →
      Selected past rowId type task →
    race.threads other = some ⟨.claim rowId type' runnerId lockUntil', past', rest⟩ → SetRunning past' → other = id
  held : ∀ id rowId type runnerId lockUntil past statement next lock,
    race.threads id = some ⟨.claim rowId type runnerId lockUntil, past, .call statement next⟩ → Took past lock →
    ¬SetRunning past → ¬Released past → race.shared.clock ≤ lock.lockedUntil → lock ∈ race.shared.locks.rows
  covered : ∀ task ∈ race.shared.tasks.rows, task.status = .running →
    RanFor race task.taskId task.lockedBy ∧ ∃ since lock, Covers race since task lock

section Invariant

theorem took_selected (sound : RaceSound race) {id past rest lock}
    (thread : race.threads id = some ⟨.claim rowId type runnerId lockUntil, past, rest⟩) (took : Took past lock) :
    lock.lockedBy = runnerId ∧ ∃ task, Selected past rowId type task ∧ lock.taskId = task.taskId := by
  have may : ∃ before, before <+: past ∧ MayTake (.claim rowId type runnerId lockUntil) before lock := by
    rcases took with created | ⟨now, rows, -, taken⟩
    · exact sound.lawful id _ thread _ created
    · obtain ⟨before, early, may, -⟩ := sound.lawful id _ thread _ taken
      exact ⟨before, early, may⟩
  obtain ⟨_, early, _, task, _, claim, same, claiming⟩ := may
  cases claim
  exact ⟨rfl, task, early.subset claiming.selected, same⟩

theorem not_ran (orderly : TasksOrderly race) {id past statement next task}
    (thread : race.threads id = some ⟨.claim rowId type runnerId lockUntil, past, .call statement next⟩)
    (selected : Selected past rowId type task) (waiting : ¬SetRunning past) : ¬RanFor race task.taskId runnerId := by
  rintro ⟨other, _, type', lockUntil', past', rest, other_thread, running, row, member, rfl, same⟩
  obtain ⟨known, present, rfl, sameTask, -⟩ := (orderly.threads id _ thread).known rowId type task selected
  obtain rfl := orderly.sound.tasks.taskIds row member known present (same.trans sameTask.symm)
  obtain rfl := orderly.exclusive id row.id type runnerId lockUntil past statement next other type'
    lockUntil' past' rest task
    thread selected other_thread running
  cases thread.symm.trans other_thread
  exact waiting running

end Invariant

/-! ## One statement of a thread -/

structure Act (race later : SystemTaskRace) (id : Nat) (call : SystemTaskCall)
    (past : SystemTaskPast) (statement : SystemTaskStatement)
    (next : Except String statement.Answer → SystemTaskScript (Option SystemTask))
    (answer : Except String statement.Answer) : Prop where
  thread : race.threads id = some ⟨call, past, .call statement next⟩
  ran : RanStatement race.shared statement answer later.shared
  threads : later.threads = Function.update race.threads id (some ⟨call, past ++ [⟨statement, answer⟩], next answer⟩)

section Act
variable {later : SystemTaskRace} {id : Nat} {call : SystemTaskCall} {past : SystemTaskPast}
    {statement : SystemTaskStatement}
    {next : Except String statement.Answer → SystemTaskScript (Option SystemTask)}
    {answer : Except String statement.Answer}

theorem setRunning_mono {past later} (grows : past ⊆ later) (running : SetRunning past) : SetRunning later := by
  obtain ⟨id, type, runnerId, now, rows, some, member⟩ := running
  exact ⟨id, type, runnerId, now, rows, some, grows member⟩

theorem took_append {lock} (took : Took (past ++ [⟨statement, answer⟩]) lock) :
    Took past lock ∨ Took [⟨statement, answer⟩] lock := by
  rcases took with created | ⟨now, rows, some, taken⟩
  · exact (mem_append.mp created).imp .inl .inl
  · exact (mem_append.mp taken).imp (fun old => .inr ⟨now, rows, some, old⟩) fun new => .inr ⟨now, rows, some, new⟩

variable {old : SystemTask} {since : Int} {other one : Nat}

theorem bounded_same {task call past}
    (sameTask : old.taskId = task.taskId) (sameType : old.type = task.type) (bounded : Bounded since old call past) :
    Bounded since task call past := by
  cases call with
  | claim => exact fun same => bounded (same.trans sameType.symm)
  | expireStale => exact fun marked => bounded (sameTask ▸ marked)
  | renew => exact fun same => bounded (same.trans sameTask.symm)
  | _ => trivial

variable (orderly : TasksOrderly race)

include orderly

theorem ranFor_started (ran : RanFor race taskId runnerId) {task}
    (member : task ∈ race.shared.tasks.rows) (same : task.taskId = taskId) : task.status ≠ .pending := by
  obtain ⟨id, rowId, type, lockUntil, _, _, thread, running, row, present, sameId, sameTask⟩ := ran
  obtain ⟨_, found, foundId, status⟩ := (orderly.threads id _ thread).claimed rowId type runnerId lockUntil rfl running
  obtain rfl := Table.eq_of_key present found (sameId.trans foundId.symm)
  obtain rfl := orderly.sound.tasks.taskIds task member row present (same.trans sameTask.symm)
  exact status

theorem bounded_clock {task} (present : old ∈ race.shared.tasks.rows)
    (pending : old.status = .pending) (same : old.taskId = task.taskId) {id thread}
    (found : race.threads id = some thread) : Bounded race.shared.clock task thread.call thread.past := by
  have employed := orderly.employed id thread found
  obtain ⟨call, _, _⟩ := thread
  have known := orderly.threads id _ found
  cases call with
  | claim => exact fun _ _ now began => known.began now began
  | expireStale now => exact fun _ => known.cleanup now rfl
  | renew => exact fun other => absurd pending (ranFor_started orderly employed present (same.trans other.symm))
  | _ => trivial

omit orderly

variable (act : Act race later id call past statement next answer)

include act

theorem act_own : later.threads id = some ⟨call, past ++ [⟨statement, answer⟩], next answer⟩ := by
  rw [act.threads, Function.update_self]

theorem act_other (apart : other ≠ id) : later.threads other = race.threads other := by
  rw [act.threads, Function.update_of_ne apart]

theorem act_cases {thread} (found : later.threads other = some thread) :
    (other = id ∧ thread = ⟨call, past ++ [⟨statement, answer⟩], next answer⟩) ∨
      (other ≠ id ∧ race.threads other = some thread) := by
  rw [act.threads] at found
  exact update_some found

theorem ranFor_act (ran : RanFor race taskId runnerId) : RanFor later taskId runnerId := by
  obtain ⟨other, rowId, type, lockUntil, past', rest, thread, running, old, member, sameId, sameTask⟩ := ran
  obtain ⟨row, present, ⟨ids, taskIds, -⟩, -⟩ := (ran_grow act.ran).rows old member
  have same := And.intro (ids.trans sameId) (taskIds.trans sameTask)
  by_cases own : other = id
  · subst own
    cases thread.symm.trans act.thread
    exact ⟨other, rowId, type, lockUntil, _, _, act_own act,
      setRunning_mono (subset_append_left _ _) running, row, present, same⟩
  · exact ⟨other, rowId, type, lockUntil, past', rest, (act_other act own).trans thread, running, row, present, same⟩

theorem employed_act {other} (employed : Employed race other) : Employed later other := by
  cases other with
  | renew => exact ranFor_act act employed
  | finish => exact ranFor_act act employed
  | _ => exact employed

theorem claims_act (claims : Claims later runnerId other) : Claims race runnerId other := by
  obtain ⟨rowId, type, lockUntil, past', statement', next', thread⟩ := claims
  rcases act_cases act thread with ⟨rfl, same⟩ | ⟨-, before⟩
  · cases congrArg Thread.call same
    exact ⟨rowId, type, lockUntil, past, statement, next, act.thread⟩
  · exact ⟨rowId, type, lockUntil, past', statement', next', before⟩

include orderly

theorem act_may : TaskMayRun call past statement :=
  (orderly.sound.conforming id _ act.thread).1

theorem exclusive_act {two type' lockUntil' past₁ past₂ statement' next' rest task}
    (first : later.threads one = some ⟨.claim rowId type runnerId lockUntil, past₁, .call statement' next'⟩)
    (selected : Selected past₁ rowId type task)
    (second : later.threads two = some ⟨.claim rowId type' runnerId lockUntil', past₂, rest⟩)
    (running : SetRunning past₂) : two = one := by
  rcases act_cases act second with ⟨rfl, same₂⟩ | ⟨_, before₂⟩
  · -- Whoever acts was under way, and so was the other claim of the runner.
    have acting : Claims race runnerId two := by
      cases congrArg Thread.call same₂
      exact ⟨rowId, type', lockUntil', past, statement, next, act.thread⟩
    exact orderly.sequential runnerId two one acting (claims_act act
      ⟨rowId, type, lockUntil, past₁, statement', next', first⟩)
  · rcases act_cases act first with ⟨rfl, same₁⟩ | ⟨_, before₁⟩
    · obtain ⟨rfl, rfl⟩ : SystemTaskCall.claim rowId type runnerId lockUntil = call ∧
        past₁ = past ++ [⟨statement, answer⟩] := by
        exact ⟨congrArg Thread.call same₁, congrArg Thread.past same₁⟩
      rcases mem_append.mp selected with old | new
      · exact orderly.exclusive one rowId type runnerId lockUntil past statement next two type'
          lockUntil' past₂ rest task act.thread old
          before₂ running
      · obtain ⟨present, claimable⟩ := ran_selected act.ran new
        obtain ⟨_, member, sameId, started⟩ := (orderly.threads two _ before₂).claimed rowId type'
          runnerId lockUntil' rfl running
        obtain rfl := Table.eq_of_key member present (sameId.trans claimable.1.symm)
        exact absurd claimable.2.2 started
    · exact orderly.exclusive one rowId type runnerId lockUntil past₁ statement' next' two type'
        lockUntil' past₂ rest task before₁ selected
        before₂ running

theorem held_fate {past₁ statement' next' lock}
    (thread : race.threads one = some ⟨.claim rowId type runnerId lockUntil, past₁,
    .call statement' next'⟩) (took : Took past₁ lock)
    (waiting : ¬SetRunning past₁) (holding : ¬Released past₁) (fresh : race.shared.clock ≤ lock.lockedUntil)
    (apart : one = id → ∀ taskId lockedBy, statement ≠ .releaseLock taskId lockedBy) :
    lock ∈ later.shared.locks.rows := by
  have member := orderly.held one rowId type runnerId lockUntil past₁ statement' next' lock thread
    took waiting holding fresh
  obtain ⟨holder, _, selected, sameTask⟩ := took_selected orderly.sound thread took
  have idle : ¬RanFor race lock.taskId lock.lockedBy := by
    rw [sameTask, holder]
    exact not_ran orderly thread selected waiting
  have may := act_may orderly act
  have employed := orderly.employed id _ act.thread
  have known := orderly.threads id _ act.thread
  cases ran_fate act.ran member with
  | kept member => exact member
  | takenOver =>
    have early := known.began _ may.2
    omega
  | renewed =>
    cases may
    exact absurd employed idle
  | deleted =>
    have early := known.cleanup _ may.1
    omega
  | released =>
    rcases may with rfl | ⟨rowId', type', lockUntil', task', rfl, -, -, -⟩ | ⟨status, result, error,
      now, rows, rfl, -, -⟩
    · exact employed.elim
    · have same := orderly.sequential runnerId one id ⟨_, _, _, _, _, _, thread⟩ ⟨_, _, _, _, _, _, holder ▸ act.thread⟩
      exact absurd rfl (apart same _ _)
    · exact absurd employed idle

theorem held_act {past₁ statement' next' lock}
    (thread : later.threads one = some ⟨.claim rowId type runnerId lockUntil, past₁,
    .call statement' next'⟩) (took : Took past₁ lock)
    (waiting : ¬SetRunning past₁) (holding : ¬Released past₁) (fresh : later.shared.clock ≤ lock.lockedUntil) :
    lock ∈ later.shared.locks.rows := by
  rw [ran_clock act.ran] at fresh
  rcases act_cases act thread with ⟨rfl, same⟩ | ⟨apart, before⟩
  · obtain ⟨rfl, rfl⟩ : SystemTaskCall.claim rowId type runnerId lockUntil = call ∧
      past₁ = past ++ [⟨statement, answer⟩] :=
      ⟨congrArg Thread.call same, congrArg Thread.past same⟩
    rcases took_append took with old | new
    · refine held_fate orderly act act.thread old (fun running => ?_) (fun released => ?_) fresh ?_
      · exact waiting (setRunning_mono (subset_append_left _ _) running)
      · obtain ⟨taskId, lockedBy, answer, member⟩ := released
        exact holding ⟨taskId, lockedBy, answer, mem_append_left _ member⟩
      · rintro - taskId lockedBy rfl
        exact holding ⟨taskId, lockedBy, answer, by simp⟩
    · exact ran_took act.ran new
  · exact held_fate orderly act before took waiting holding fresh fun same => absurd same apart

theorem covers_fate {task lock} (present : task ∈ race.shared.tasks.rows) (running : task.status = .running)
    (ran : RanFor race task.taskId task.lockedBy) (covers : Covers race since task lock) :
    ∃ kept ∈ later.shared.locks.rows, kept.type = lock.type ∧ kept.taskId = lock.taskId ∧
      kept.lockedBy = lock.lockedBy ∧
      since ≤ kept.lockedUntil := by
  have may := act_may orderly act
  have bounded := covers.bounded id _ act.thread
  have lasts := covers.lasts
  cases ran_fate act.ran covers.member with
  | kept member => exact ⟨lock, member, rfl, rfl, rfl, lasts⟩
  | takenOver same =>
    obtain ⟨⟨_, found, _, rfl, -, claiming⟩, began⟩ := may
    have early := bounded (same.symm.trans covers.type) ⟨found, claiming.selected⟩ _ began
    omega
  | renewed member =>
    cases may
    exact ⟨_, member, rfl, rfl, rfl, bounded covers.taskId⟩
  | deleted same =>
    obtain ⟨rfl, marked, mark⟩ := may
    rw [same, covers.taskId] at mark
    have early := bounded ⟨marked, mark⟩
    omega
  | released =>
    rw [covers.taskId, covers.lockedBy] at may
    rcases may with rfl | ⟨rowId, type, lockUntil, found, rfl, selected, same, waiting⟩ | ⟨status,
      result, error, now, rows, rfl, some, finished⟩
    · exact (orderly.employed id _ act.thread).elim
    · exact absurd (same ▸ ran) (not_ran orderly act.thread selected waiting)
    · obtain ⟨row, member, same, terminal⟩ := (orderly.threads id _ act.thread).finished _ _ _ _ _ _ _ some finished
      obtain rfl := orderly.sound.tasks.taskIds row member task present same
      simp [SystemTaskStatus.terminal, running] at terminal

theorem bounded_act {task}
    (present : old ∈ race.shared.tasks.rows) (running : old.status = .running) (member : task ∈ later.shared.tasks.rows)
    (still : task.status = .running) (sameTask : old.taskId = task.taskId) (sameType : old.type = task.type)
    (bounded : Bounded since old call past) : Bounded since task call (past ++ [⟨statement, answer⟩]) := by
  cases call with
  | claim =>
    rintro rfl ⟨found, selected⟩ now began
    rcases mem_append.mp selected with before | new
    · rcases began_append began with began | ⟨rfl, -⟩
      · exact bounded sameType.symm ⟨found, before⟩ now began
      · cases before
    · obtain ⟨pending, claimable⟩ := ran_selected act.ran new
      obtain rfl := one_active orderly.sound.tasks present pending
        (sameType.trans claimable.2.1.symm) (.inr running) (.inl claimable.2.2)
      cases running.symm.trans claimable.2.2
  | expireStale =>
    rintro ⟨marked, mark⟩
    rcases mem_past mark with before | new
    · exact bounded ⟨marked, sameTask ▸ before⟩
    · exact absurd still (ran_marked act.ran new member rfl)
  | renew => exact fun same => bounded (same.trans sameTask.symm)
  | _ => trivial

theorem covered_act (prompt : ∀ rowId type runnerId lockUntil now, call = .claim rowId type runnerId lockUntil →
      statement = .setRunning rowId type runnerId now → race.shared.clock ≤ lockUntil)
    {task} (member : task ∈ later.shared.tasks.rows) (running : task.status = .running) :
    RanFor later task.taskId task.lockedBy ∧ ∃ since lock, Covers later since task lock := by
  have creates : ∀ task, statement = .createTask task → task.status = .pending := by
    rintro _ rfl
    exact (act_may orderly act).1
  have clock := ran_clock act.ran
  rcases ran_running act.ran creates member running with
    ⟨old, present, was, sameTask, sameType, sameLock⟩ | ⟨rowId, type, runnerId, now, rfl, set, old,
      present, claimable, sameId, sameTask, sameType, holder⟩
  · obtain ⟨ran, since, _, covers⟩ := orderly.covered old present was
    obtain ⟨kept, held, types, taskIds, holders, lasts⟩ := covers_fate orderly act present was ran covers
    refine ⟨sameTask ▸ sameLock ▸ ranFor_act act ran, since, kept, ?_⟩
    refine ⟨clock ▸ covers.started, held, types.trans (covers.type.trans sameType),
      taskIds.trans (covers.taskId.trans sameTask),
      holders.trans (covers.lockedBy.trans sameLock), lasts, fun other thread found => ?_⟩
    rcases act_cases act found with ⟨rfl, rfl⟩ | ⟨-, before⟩
    · exact bounded_act orderly act present was member running sameTask sameType (covers.bounded other _ act.thread)
    · exact bounded_same sameTask sameType (covers.bounded other thread before)
  · obtain ⟨lock, found, began, rfl, rfl, rfl, lockTask, claiming, took⟩ := act_may orderly act
    have fresh := prompt _ _ _ _ _ rfl rfl
    obtain ⟨_, listed, rowIds, rowTask, -⟩ := (orderly.threads id _ act.thread).known _ _ _ claiming.selected
    obtain rfl := Table.eq_of_key present listed (claimable.1.trans rowIds.symm)
    refine ⟨?_, race.shared.clock, lock, clock.ge, ?_, ?_, ?_, ?_, fresh, fun other thread found => ?_⟩
    · rw [holder]
      exact ⟨id, _, _, _, _, _, act_own act, setRunning_mono (subset_append_right _ _) set, task, member,
        sameId.symm.trans claimable.1, rfl⟩
    · exact held_fate orderly act act.thread took claiming.waiting claiming.holding fresh (by simp)
    · exact claimable.2.1.symm.trans sameType
    · exact lockTask.trans (rowTask.symm.trans sameTask)
    · exact holder.symm
    · rcases act_cases act found with ⟨rfl, rfl⟩ | ⟨-, before⟩
      · exact fun _ _ now early => clock ▸ (ran_thread act.ran (orderly.threads other _ act.thread)
          (act_may orderly act)).began now early
      · exact bounded_clock orderly present claimable.2.2 sameTask before

theorem tasksOrderly_act (sound : RaceSound later)
    (prompt : ∀ rowId type runnerId lockUntil now, call = .claim rowId type runnerId lockUntil →
      statement = .setRunning rowId type runnerId now → race.shared.clock ≤ lockUntil) : TasksOrderly later where
  sound := sound
  threads other thread found := by
    rcases act_cases act found with ⟨rfl, rfl⟩ | ⟨-, before⟩
    · exact ran_thread act.ran (orderly.threads other _ act.thread) (act_may orderly act)
    · exact taskThread_grow (orderly.threads other thread before) (ran_grow act.ran)
  employed other thread found := by
    rcases act_cases act found with ⟨rfl, rfl⟩ | ⟨-, before⟩
    · have employed := orderly.employed other _ act.thread
      exact employed_act act employed
    · exact employed_act act (orderly.employed other thread before)
  sequential runnerId one two first second := orderly.sequential runnerId one two
    (claims_act act first) (claims_act act second)
  exclusive _ _ _ _ _ _ _ _ _ _ _ _ _ _ first selected second running :=
    exclusive_act orderly act first selected second running
  held _ _ _ _ _ _ _ _ _ thread took waiting holding fresh := held_act orderly act thread took waiting holding fresh
  covered _ member running := covered_act orderly act prompt member running

end Act

/-! ## Runs -/

section Step

theorem tasksOrderly_start (clock : Int) : TasksOrderly (start clock) where
  sound := raceSound_start clock
  threads _ _ found := by cases found
  employed _ _ found := by cases found
  sequential _ _ _ claims := by
    obtain ⟨_, _, _, _, _, _, found⟩ := claims
    cases found
  exclusive _ _ _ _ _ _ _ _ _ _ _ _ _ _ found := by cases found
  held _ _ _ _ _ _ _ _ _ found := by cases found
  covered _ member := by cases member

theorem dispatched_ran (orderly : TasksOrderly race) (dispatched : Dispatched race taskId runnerId) :
    RanFor race taskId runnerId := by
  obtain ⟨id, rowId, type, lockUntil, past, task, thread, rfl⟩ := dispatched
  obtain ⟨running, found⟩ := orderly.sound.conforming id _ thread task rfl
  obtain ⟨row, member, sameId, sameTask⟩ := (orderly.threads id _ thread).read rowId task found
  exact ⟨id, rowId, type, lockUntil, past, _, thread, running, row, member, sameId, sameTask⟩

theorem ranFor_mono {later} (ran : RanFor race taskId runnerId) (tasks : later.shared.tasks = race.shared.tasks)
    (threads : ∀ id thread, race.threads id = some thread → later.threads id = some thread) :
    RanFor later taskId runnerId := by
  obtain ⟨id, rowId, type, lockUntil, past, rest, thread, running, row, member, same⟩ := ran
  exact ⟨id, rowId, type, lockUntil, past, rest, threads id _ thread, running, row, tasks ▸ member, same⟩

theorem employed_mono {later call} (employed : Employed race call) (tasks : later.shared.tasks = race.shared.tasks)
    (threads : ∀ id thread, race.threads id = some thread → later.threads id = some thread) : Employed later call := by
  cases call with
  | renew => exact ranFor_mono employed tasks threads
  | finish => exact ranFor_mono employed tasks threads
  | _ => exact employed

theorem tasksOrderly_tick (orderly : TasksOrderly race) (seconds : Nat) : TasksOrderly (race.step (.tick seconds)) := by
  have grow : TasksGrow race.shared (race.step (.tick seconds)).shared := by
    refine ⟨?_, fun old member => ⟨old, member, ⟨rfl, rfl, rfl⟩, id, id⟩⟩
    show race.shared.clock ≤ race.shared.clock + seconds
    omega
  refine ⟨raceSound_step race _ orderly.sound, fun id thread found =>
    taskThread_grow (orderly.threads id thread found) grow,
    fun id thread found => employed_mono (orderly.employed id thread found) rfl fun _ _ found =>
      found, orderly.sequential,
    orderly.exclusive, ?_, fun task member running => ?_⟩
  · intro id rowId type runnerId lockUntil past statement next lock thread took waiting holding fresh
    exact orderly.held id rowId type runnerId lockUntil past statement next lock thread took waiting
      holding (grow.clock.trans fresh)
  · obtain ⟨ran, since, lock, covers⟩ := orderly.covered task member running
    exact ⟨ran, since, lock, covers.started.trans grow.clock, covers.member, covers.type,
      covers.taskId, covers.lockedBy, covers.lasts,
      covers.bounded⟩

theorem taskThread_nil {db call} (cleanup : ∀ now, call = .expireStale now → now ≤ db.clock) :
    TaskThread db call [] where
  began now began := by cases began
  cleanup := cleanup
  known id type task selected := by cases selected
  read id task member := by cases member
  claimed id type runnerId lockUntil same running := by
    obtain ⟨_, _, _, _, _, _, member⟩ := running
    cases member
  finished taskId lockedBy status result error now rows some member := by cases member

theorem employed_serviced (orderly : TasksOrderly race) {id call} (serviced : Serviced race (.call id call)) :
    Employed race call := by
  cases call with
  | renew => exact dispatched_ran orderly serviced.2
  | finish => exact dispatched_ran orderly serviced
  | release => exact serviced.elim
  | markExpired => exact serviced.elim
  | _ => trivial

theorem bounded_serviced {id call} (serviced : Serviced race (.call id call)) {since}
    (started : since ≤ race.shared.clock) (task) : Bounded since task call [] := by
  cases call with
  | claim =>
    rintro - ⟨_, selected⟩
    cases selected
  | expireStale =>
    rintro ⟨_, mark⟩
    cases mark
  | renew =>
    intro _
    have lasts := serviced.1
    simp only [systemTaskLockUntil, systemTaskLockTTL] at lasts
    omega
  | _ => trivial

theorem tasksOrderly_spawn (orderly : TasksOrderly race) {id call} (serviced : Serviced race (.call id call)) :
    TasksOrderly (race.step (.call id call)) := by
  have sound := raceSound_step race (.call id call) orderly.sound
  rcases Pool.spawn_cases race id call call.script with same | ⟨free, spawned⟩
  · rwa [step, same]
  rw [step, spawned] at sound ⊢
  have kept : ∀ other thread, race.threads other = some thread →
      Function.update race.threads id (some ⟨call, [], call.script⟩) other = some thread := by
    intro other thread found
    have apart : other ≠ id := by
      rintro rfl
      cases free.symm.trans found
    rwa [Function.update_of_ne apart]
  refine ⟨sound, fun other thread found => ?_, fun other thread found =>
    ?_, fun runnerId one two first second => ?_, ?_, ?_,
    fun task member running => ?_⟩
  · rcases update_some found with ⟨rfl, rfl⟩ | ⟨-, before⟩
    · refine taskThread_nil ?_
      rintro _ rfl
      exact serviced.le
    · exact orderly.threads other thread before
  · rcases update_some found with ⟨rfl, rfl⟩ | ⟨-, before⟩
    · exact employed_mono (employed_serviced orderly serviced) rfl kept
    · exact employed_mono (orderly.employed other thread before) rfl kept
  · obtain ⟨_, _, _, _, _, _, first⟩ := first
    obtain ⟨_, _, _, _, _, _, second⟩ := second
    rcases update_some first with ⟨rfl, same₁⟩ | ⟨_, before₁⟩
    · rcases update_some second with ⟨rfl, -⟩ | ⟨_, before₂⟩
      · rfl
      · cases congrArg Thread.call same₁
        exact absurd ⟨_, _, _, _, _, _, before₂⟩ (serviced.2 two)
    · rcases update_some second with ⟨rfl, same₂⟩ | ⟨_, before₂⟩
      · cases congrArg Thread.call same₂
        exact absurd ⟨_, _, _, _, _, _, before₁⟩ (serviced.2 one)
      · exact orderly.sequential runnerId one two ⟨_, _, _, _, _, _, before₁⟩ ⟨_, _, _, _, _, _, before₂⟩
  · intro one rowId type runnerId lockUntil past statement next two type' lockUntil' past' rest task
      first selected second running
    rcases update_some first with ⟨rfl, same₁⟩ | ⟨-, before₁⟩
    · cases congrArg Thread.past same₁
      cases selected
    · rcases update_some second with ⟨rfl, same₂⟩ | ⟨-, before₂⟩
      · obtain ⟨_, _, _, _, _, _, member⟩ := running
        cases congrArg Thread.past same₂
        cases member
      · exact orderly.exclusive one rowId type runnerId lockUntil past statement next two type'
          lockUntil' past' rest task before₁
          selected before₂ running
  · intro one rowId type runnerId lockUntil past statement next lock thread took waiting holding fresh
    rcases update_some thread with ⟨rfl, same⟩ | ⟨-, before⟩
    · cases congrArg Thread.past same
      rcases took with created | ⟨_, _, _, taken⟩
      · cases created
      · cases taken
    · exact orderly.held one rowId type runnerId lockUntil past statement next lock before took waiting holding fresh
  · obtain ⟨ran, since, lock, covers⟩ := orderly.covered task member running
    refine ⟨ranFor_mono ran rfl kept, since, lock, covers.started, covers.member, covers.type,
      covers.taskId, covers.lockedBy,
      covers.lasts, fun other thread found => ?_⟩
    rcases update_some found with ⟨rfl, rfl⟩ | ⟨-, before⟩
    · exact bounded_serviced serviced covers.started task
    · exact covers.bounded other thread before

theorem tasksOrderly_step (race event) (orderly : TasksOrderly race)
    (regular : Serviced race event ∧ Prompt race event) : TasksOrderly (race.step event) := by
  have sound := raceSound_step race event orderly.sound
  cases event with
  | call => exact tasksOrderly_spawn orderly regular.1
  | tick seconds => exact tasksOrderly_tick orderly seconds
  | advance id fault =>
    rcases Pool.advance_cases exec race id fault with
      same | ⟨call, past, statement, next, answer, after, thread, ran, advanced⟩
    · rwa [step, same]
    · rw [step, advanced] at sound ⊢
      refine tasksOrderly_act orderly ⟨thread, exec_answer ran, rfl⟩ sound ?_
      rintro rowId type runnerId lockUntil now rfl rfl
      exact regular.2 rowId type runnerId lockUntil past now next thread

end Step

/-! ## The end of a running task -/

section Alone
variable {db : SystemTaskDb} {task : SystemTask} {lock : SystemTaskLock}

def Over (db : SystemTaskDb) (id : Int) : Prop := ∀ row ∈ db.tasks.rows, row.id = id →
    row.status.terminal ∧ row.activeKey = none

theorem over_answer (statement) (creates : ∀ task, statement ≠ .createTask task) {id} (ended : Over db id) :
    Over (db.answer statement).2 id := by
  intro row member same
  rcases (answer_tasks db statement).origin row member with ⟨old, present, effect⟩ | ⟨task, created, -, -⟩
  · obtain ⟨terminal, free⟩ := ended old present ((effect_identity effect).1.symm.trans same)
    refine ⟨?_, ?_⟩
    · rw [effect_terminal effect terminal]
      exact terminal
    · rcases effect_key effect with kept | cleared
      · exact kept.trans free
      · exact cleared
  · exact absurd created (creates task)

theorem over_update {hit} [DecidablePred hit] {f} (keeps : ∀ row, (f row).id = row.id)
    (member : task ∈ db.tasks.rows) (does : hit task) (ends : ∀ row, (f row).status.terminal ∧
    (f row).activeKey = none) :
    Over (db.setTasks (db.tasks.updateWhere hit f keeps)) task.id := by
  intro _ present same
  obtain ⟨old, listed, rfl⟩ := mem_map.mp present
  have sameId : old.id = task.id := by
    split_ifs at same
    · exact (keeps old).symm.trans same
    · exact same
  obtain rfl := Table.eq_of_key listed member sameId
  rw [if_pos does]
  exact ends old

section Member
variable (member : task ∈ db.tasks.rows)
include member

theorem over_marked (running : task.status = .running) (now : Int) :
    Over (db.answer (.markExpired task.taskId now)).2 task.id := by
  exact over_update _ member ⟨rfl, running⟩ fun _ => ⟨.inr rfl, rfl⟩

theorem over_finished {taskId lockedBy now} (owned : db.Owned taskId lockedBy now task)
    (status : Outcome) (result error : String) :
    Over (db.answer (.finishTask taskId lockedBy status result error now)).2 task.id := by
  exact over_update _ member owned fun _ => ⟨status.2, rfl⟩

theorem finish_alone (running : task.status = .running) (held : lock ∈ db.locks.rows)
    (sameTask : lock.taskId = task.taskId) (holder : lock.lockedBy = task.lockedBy)
    (fresh : db.clock ≤ lock.lockedUntil)
    (status : Outcome) (result error : String) :
    ∃ after, (SystemTask.finishSystemTask task.taskId task.lockedBy status result error).perform
      answer db = (.ok (), after) ∧
      Over after task.id := by
  have owned : db.Owned task.taskId task.lockedBy db.clock task :=
    ⟨⟨rfl, running, rfl⟩, lock, held, sameTask, holder, fresh⟩
  have some : db.tasks.countWhere (db.Owned task.taskId task.lockedBy db.clock) ≠ 0 :=
    fun none => Table.countWhere_eq_zero.mp none task member owned
  refine ⟨_, ?_, over_answer (.releaseLock task.taskId task.lockedBy) (by simp)
    (over_finished member owned status result error)⟩
  change Script.perform answer
    (if db.tasks.countWhere (db.Owned task.taskId task.lockedBy db.clock) = 0 then _ else _) _ = _
  rw [if_neg some]
  rfl

end Member

def Reapable (db : SystemTaskDb) (task : SystemTask) (locks : List SystemTaskLock) : Prop :=
  Over db task.id ∨ (task ∈ db.tasks.rows ∧ task.status = .running ∧ task.taskId ∈ locks.map SystemTaskLock.taskId)

theorem reapable_rest {locks} (reapable : Reapable db task (lock :: locks)) (marked now : Int) :
    Reapable ((db.answer (.markExpired lock.taskId marked)).2.answer (.deleteStaleLock lock now)).2 task locks := by
  rcases reapable with ended | ⟨member, running, named⟩
  · exact .inl (over_answer _ (by simp) (over_answer _ (by simp) ended))
  · by_cases same : task.taskId = lock.taskId
    · rw [← same]
      exact .inl (over_answer _ (by simp) (over_marked member running marked))
    · refine .inr ⟨mem_map.mpr ⟨task, member, if_neg fun hit => same hit.1⟩, running, ?_⟩
      exact (mem_cons.mp named).resolve_left same

theorem expireLocks_alone {now locks} (reapable : Reapable db task locks) :
    ∃ after, (SystemTask.expireLocks now locks).perform answer db = (.ok (), after) ∧ Over after task.id := by
  induction locks generalizing db with
  | nil =>
    rcases reapable with ended | ⟨-, -, member⟩
    · exact ⟨db, rfl, ended⟩
    · cases member
  | cons _ _ ih => exact ih (reapable_rest reapable db.clock now)

theorem expireStale_alone (member : task ∈ db.tasks.rows) (running : task.status = .running)
    (held : lock ∈ db.locks.rows)
    (sameTask : lock.taskId = task.taskId) {now} (expired : lock.lockedUntil < now) :
    ∃ after, (SystemTask.expireStaleSystemTaskLocks now).perform answer db = (.ok (), after) ∧ Over after task.id := by
  refine expireLocks_alone (.inr ⟨member, running, mem_map.mpr ⟨lock, ?_, sameTask⟩⟩)
  exact mem_filter.mpr ⟨held, by simpa using expired⟩

end Alone

structure Attended (db : SystemTaskDb) (task : SystemTask) (lock : SystemTaskLock) : Prop where
  type : lock.type = task.type
  taskId : lock.taskId = task.taskId
  lockedBy : lock.lockedBy = task.lockedBy
  finishes : db.clock ≤ lock.lockedUntil → ∀ status result error, ∃ after,
    (SystemTask.finishSystemTask task.taskId task.lockedBy status result error).perform answer db = (.ok (), after) ∧
      Over after task.id
  reaps : ∀ now, lock.lockedUntil < now → ∃ after,
    (SystemTask.expireStaleSystemTaskLocks now).perform answer db = (.ok (), after) ∧ Over after task.id

theorem running_has_lock (clock : Int) (events : List SystemTaskEvent)
    (regular : Along step (fun race event => Serviced race event ∧ Prompt race event) (start clock) events) :
    ∀ task ∈ (run step (start clock) events).shared.tasks.rows, task.status = .running →
      ∃ lock ∈ (run step (start clock) events).shared.locks.rows,
        Attended (run step (start clock) events).shared task lock := by
  intro task member running
  have orderly := run_invariant tasksOrderly_step (tasksOrderly_start clock) regular
  obtain ⟨-, _, lock, covers⟩ := orderly.covered task member running
  refine ⟨lock, covers.member, covers.type, covers.taskId, covers.lockedBy,
    fun fresh status result error => ?_, fun _ expired => ?_⟩
  · exact finish_alone member running covers.member covers.taskId covers.lockedBy fresh status result error
  · exact expireStale_alone member running covers.member covers.taskId expired

theorem created_idle (id : Nat) : ¬Claims (run step (start 0) (claimedEvents.take 3)) "runner" id := by
  rintro ⟨_, _, _, _, _, _, found⟩
  rcases update_some found with ⟨-, same⟩ | ⟨apart, before⟩
  · cases congrArg Thread.call same
  · rcases update_some before with ⟨rfl, -⟩ | ⟨-, before⟩
    · exact apart rfl
    · rcases update_some before with ⟨rfl, -⟩ | ⟨-, before⟩
      · exact apart rfl
      · cases before

theorem claimed_regular : Along step (fun race event => Serviced race event ∧ Prompt race event)
    (start 0) claimedEvents := by
  refine ⟨⟨trivial, trivial⟩, ⟨trivial, ?_⟩, ⟨trivial, ?_⟩, ⟨⟨rfl, created_idle⟩, trivial⟩,
    ⟨trivial, ?_⟩, ⟨trivial, ?_⟩, ⟨trivial, ?_⟩,
    ⟨trivial, ?_⟩, ⟨trivial, ?_⟩, trivial⟩
  all_goals
    intro _ _ _ _ _ _ _ found
    cases congrArg (Option.map Thread.call) found <;> decide

theorem running_has_lock_claimed : (run step (start 0) claimedEvents).shared.tasks.rows.map
    SystemTask.status = [.running] ∧
    ∀ task ∈ (run step (start 0) claimedEvents).shared.tasks.rows, task.status = .running →
      ∃ lock ∈ (run step (start 0) claimedEvents).shared.locks.rows,
        Attended (run step (start 0) claimedEvents).shared task lock :=
  ⟨by decide +kernel, running_has_lock 0 claimedEvents claimed_regular⟩

def orphanEvents : List SystemTaskEvent :=
  claimedEvents.take 7 ++ [.tick 61, .call 2 (.expireStale 61)] ++ replicate 4 (.advance 2 none) ++
    replicate 2 (.advance 1 none)

theorem running_without_lock : Along step Serviced (start 0) orphanEvents ∧
    (run step (start 0) orphanEvents).shared.tasks.rows.map SystemTask.status = [.running] ∧
    (run step (start 0) orphanEvents).shared.locks.rows = [] := by
  refine ⟨⟨trivial, trivial, trivial, ⟨rfl, created_idle⟩, trivial, trivial, trivial, trivial, rfl,
    ?_⟩, by decide +kernel, by decide +kernel⟩
  exact along_of_forall (by simp [Serviced])

end NewApi.Proof
