import NewApi.Library.Script
import NewApi.Model.PreConsumeRace
import NewApi.Proof.SubscriptionRows

/-! # One charge for one request -/

namespace NewApi.Proof
open Library Common Model SubscriptionStore PreConsumeRace Table List Option
variable {requestId : String} {id : Nat} {race : PreConsumeRace} {call : PreConsumeCall}
    {env : SubscriptionEnv} {userId : Int}

def Held (race : PreConsumeRace) (id : Nat) (row : UserSubscription) : Prop :=
  race.rowLocks row.id = some id ∧ race.store.subscriptions.find? row.id = some row

def Draft (race : PreConsumeRace) (id : Nat) (row : UserSubscription) : Prop :=
  ∃ stored, Held race id stored ∧ row.id = stored.id ∧ (row.amountUsed = stored.amountUsed ∨ row.amountUsed = 0)

def Answers (requestId : String) (race : PreConsumeRace) (result : SubscriptionPreConsumeResult) : Prop :=
  ∃ record, race.store.records.find? requestId = some record ∧
    result.userSubscriptionId = record.userSubscriptionId ∧ result.preConsumed = record.preConsumed

def StageKnown (requestId : String) (race : PreConsumeRace) (id : Nat) : PreConsumeStage → Prop
  | .findRecord => True
  | .findSubscription record => race.store.records.find? requestId = some record
  | .lock => True
  | .plan candidates => ∀ row ∈ candidates, Held race id row
  | .reset candidate _ rest => Held race id candidate ∧ ∀ row ∈ rest, Held race id row
  | .create sub => Draft race id sub
  | .findDuplicate sub _ => Draft race id sub
  | .save _ => False
  | .commit result => Answers requestId race result
  | .returned _ => False

structure Selecting (race : PreConsumeRace) (id : Nat) (call : PreConsumeCall) : Prop where
  positive : 0 < call.amount
  uncreated : call.created = none
  drafts : ∀ row ∈ call.written, Draft race id row

structure Creates (requestId : String) (race : PreConsumeRace) (id : Nat) (call : PreConsumeCall)
    (record : SubscriptionPreConsumeRecord) : Prop where
  created : call.created = some record
  holds : race.keyLock = some id
  request : record.requestId = requestId
  amount : record.preConsumed = call.amount
  positive : 0 < record.preConsumed

inductive CallPhase (requestId : String) (race : PreConsumeRace) (id : Nat) (call : PreConsumeCall) : Prop
  | selecting (selecting : Selecting race id call) (stage : StageKnown requestId race id call.stage)
  | saving {record sub} (creates : Creates requestId race id call record)
      (drafts : ∀ row ∈ call.written, Draft race id row) (stage : call.stage = .save sub) (draft : Draft race id sub)
      (same : record.userSubscriptionId = sub.id)
  | charging {record sub result drafts} (creates : Creates requestId race id call record)
      (stage : call.stage = .commit result) (written : call.written = drafts ++ [withCharge record.preConsumed sub])
      (earlier : ∀ row ∈ drafts, Draft race id row) (draft : Draft race id sub)
        (same : record.userSubscriptionId = sub.id)
      (reports : result.userSubscriptionId = record.userSubscriptionId ∧ result.preConsumed = record.preConsumed)
  | returned {result} (stage : call.stage = .returned result)
      (unwritten : call.written = []) (answers : ∀ value, result = .ok value → Answers requestId race value)

structure RaceKnown (requestId : String) (race : PreConsumeRace) : Prop where
  calls : ∀ id call, race.calls id = some call → CallPhase requestId race id call
  key : race.keyLock ≠ none → race.store.records.find? requestId = none

structure Undisturbed (requestId : String) (id : Nat) (before after : PreConsumeRace) : Prop where
  locks : ∀ row, before.rowLocks row = some id → after.rowLocks row = some id
  rows : ∀ row, before.rowLocks row = some id →
    after.store.subscriptions.find? row = before.store.subscriptions.find? row
  key : before.keyLock = some id → after.keyLock = some id
  record : ∀ record, before.store.records.find? requestId = some record →
    after.store.records.find? requestId = some record

section Frame
variable {before after : PreConsumeRace}

theorem undisturbed_trans {middle} (first : Undisturbed requestId id before middle)
    (second : Undisturbed requestId id middle after) : Undisturbed requestId id before after where
  locks row held := second.locks row (first.locks row held)
  rows row held := (second.rows row (first.locks row held)).trans (first.rows row held)
  key held := second.key (first.key held)
  record record found := second.record record (first.record record found)

section Undisturbed
variable (undisturbed : Undisturbed requestId id before after)

include undisturbed

theorem held_undisturbed {row} (held : Held before id row) : Held after id row :=
  ⟨undisturbed.locks _ held.1, (undisturbed.rows _ held.1).trans held.2⟩

theorem draft_undisturbed {row} (draft : Draft before id row) : Draft after id row := by
  obtain ⟨stored, held, same⟩ := draft
  exact ⟨stored, held_undisturbed undisturbed held, same⟩

theorem answers_undisturbed {result} (answers : Answers requestId before result) : Answers requestId after result := by
  obtain ⟨record, found, same⟩ := answers
  exact ⟨record, undisturbed.record record found, same⟩

theorem stageKnown_undisturbed {stage} (known : StageKnown requestId before id stage) :
    StageKnown requestId after id stage := by
  cases stage with
  | findRecord => trivial
  | findSubscription record => exact undisturbed.record record known
  | lock => trivial
  | plan => exact fun row mem => held_undisturbed undisturbed (known row mem)
  | reset => exact ⟨held_undisturbed undisturbed known.1, fun row mem => held_undisturbed undisturbed (known.2 row mem)⟩
  | create => exact draft_undisturbed undisturbed known
  | findDuplicate => exact draft_undisturbed undisturbed known
  | save => exact known
  | commit => exact answers_undisturbed undisturbed known
  | returned => exact known

theorem selecting_undisturbed (selecting : Selecting before id call) : Selecting after id call :=
  { selecting with drafts := fun row mem => draft_undisturbed undisturbed (selecting.drafts row mem) }

theorem callPhase_undisturbed (known : CallPhase requestId before id call) : CallPhase requestId after id call := by
  have creates : ∀ record, Creates requestId before id call record → Creates requestId after id call record :=
    fun _ old => { old with holds := undisturbed.key old.holds }
  cases known with
  | selecting selecting stage =>
    exact .selecting (selecting_undisturbed undisturbed selecting) (stageKnown_undisturbed undisturbed stage)
  | saving old drafts stage draft same =>
    exact .saving (creates _ old) (fun row mem => draft_undisturbed undisturbed (drafts row mem)) stage
      (draft_undisturbed undisturbed draft) same
  | charging old stage written earlier draft same reports =>
    exact .charging (creates _ old) stage written (fun row mem => draft_undisturbed undisturbed (earlier row mem))
      (draft_undisturbed undisturbed draft) same reports
  | returned stage unwritten answers =>
    exact .returned stage unwritten fun value same => answers_undisturbed undisturbed (answers value same)

end Undisturbed

theorem raceKnown_moved (known : RaceKnown requestId before)
    (calls : after.calls = Function.update before.calls id (some call))
    (others : ∀ other, other ≠ id → Undisturbed requestId other before after) (own : CallPhase requestId after id call)
    (key : after.keyLock ≠ none → after.store.records.find? requestId = none) : RaceKnown requestId after where
  calls other found present := by
    rw [calls] at present
    rcases update_some present with ⟨rfl, rfl⟩ | ⟨apart, before⟩
    · exact own
    · exact callPhase_undisturbed (others other apart) (known.calls other found before)
  key := key

theorem raceKnown_setCall (known : RaceKnown requestId race) (own : CallPhase requestId race id call) :
    RaceKnown requestId (race.setCall id call) := by
  have same : ∀ other, Undisturbed requestId other race (race.setCall id call) := fun _ =>
    ⟨fun _ held => held, fun _ _ => rfl, fun held => held, fun _ found => found⟩
  exact raceKnown_moved known rfl (fun other _ => same other) (callPhase_undisturbed (same id) own) known.key

theorem undisturbed_finish {other} (apart : other ≠ id) (result) :
    Undisturbed requestId other race (race.finish id call result) where
  locks row held := by
    change (if race.rowLocks row = some id then none else race.rowLocks row) = some other
    rw [held, if_neg]
    exact fun same => apart (some.inj same)
  rows _ _ := rfl
  key held := by
    change (if race.keyLock = some id then none else race.keyLock) = some other
    rw [held, if_neg]
    exact fun same => apart (some.inj same)
  record _ found := found

theorem finish_keyLock (result) (locked : (race.finish id call result).keyLock ≠ none) :
    race.keyLock ≠ none ∧ race.keyLock ≠ some id := by
  change (if race.keyLock = some id then none else race.keyLock) ≠ none at locked
  split_ifs at locked with own
  · exact absurd rfl locked
  · exact ⟨locked, own⟩

theorem raceKnown_fail (known : RaceKnown requestId race) (call) (reason : String) :
    RaceKnown requestId (race.fail id call reason) :=
  raceKnown_moved known rfl (fun _ apart => undisturbed_finish apart _) (.returned rfl rfl (by simp))
    fun locked => known.key (finish_keyLock _ locked).1

end Frame

/-! ## What a commit does to the rows -/

section Commit

section Written
variable (written : List UserSubscription)
include written

theorem foldl_save_other {store row} (apart : ∀ draft ∈ written, draft.id ≠ row) :
    (written.foldl saveSubscription store).subscriptions.find? row = store.subscriptions.find? row := by
  induction written generalizing store with
  | nil => rfl
  | cons draft _ ih =>
    rw [foldl_cons, ih fun other mem => apart other (by simp [mem]), saveSubscription,
      find?_save, if_neg (apart draft (by simp)).symm]

theorem foldl_save_records {store} : (written.foldl saveSubscription store).records = store.records := by
  induction written generalizing store with
  | nil => rfl
  | cons _ _ ih => exact ih

theorem foldl_save_drafts {store row}
    (drafts : ∀ draft ∈ written, draft.id = row → draft.amountUsed = store.amountUsed row ∨ draft.amountUsed = 0) :
    (written.foldl saveSubscription store).amountUsed row = store.amountUsed row ∨
      (written.foldl saveSubscription store).amountUsed row = 0 := by
  induction written using reverseRecOn with
  | nil => exact .inl rfl
  | append_singleton written draft ih =>
    rw [foldl_append, foldl_cons, foldl_nil]
    have before := ih fun other mem => drafts other (by simp [mem])
    unfold amountUsed at before ⊢
    rw [saveSubscription, find?_save]
    split_ifs with same
    · cases found : (written.foldl saveSubscription store).subscriptions.find? row with
      | none => exact .inr rfl
      | some => exact drafts draft (by simp) same.symm
    · exact before

end Written

theorem draft_used {row} (draft : Draft race id row) : race.store.subscriptions.find? row.id ≠ none ∧
      (row.amountUsed = race.store.amountUsed row.id ∨ row.amountUsed = 0) := by
  obtain ⟨_, ⟨-, found⟩, same, used⟩ := draft
  rw [amountUsed, same, found]
  exact ⟨some_ne_none _, used⟩

theorem foldl_save_found {store row} (written : List UserSubscription) (found : store.subscriptions.find? row ≠ none) :
    (written.foldl saveSubscription store).subscriptions.find? row ≠ none := by
  induction written generalizing store with
  | nil => exact found
  | cons _ _ ih =>
    apply ih
    rw [saveSubscription, find?_save]
    split_ifs
    · rwa [Ne, map_eq_none_iff]
    · exact found

theorem committed_records (call : PreConsumeCall) (store : SubscriptionStore) :
    (call.committed store).records = (match call.created with
      | some record => store.records.insert record
      | none => store.records) := by
  unfold PreConsumeCall.committed
  cases call.created with
  | none => exact foldl_save_records _
  | some => simp only [insertRecord, foldl_save_records]

theorem committed_rows (call : PreConsumeCall) (store : SubscriptionStore) :
    (call.committed store).subscriptions = (call.written.foldl saveSubscription store).subscriptions := by
  unfold PreConsumeCall.committed
  cases call.created <;> rfl

theorem undisturbed_commit {other result} (apart : other ≠ id)
    (own : ∀ row ∈ call.written, race.rowLocks row.id = some id) :
    Undisturbed requestId other race (race.commit id call result) := by
  have visible : Undisturbed requestId other race { race with store := call.committed race.store } :=
    { locks := fun _ held => held
      rows := fun _ held => by
        rw [committed_rows]
        apply foldl_save_other
        rintro draft mem rfl
        exact apart (mem_unique held (own draft mem))
      key := fun held => held
      record := fun _ found => by
        rw [committed_records]
        cases call.created with
        | none => exact found
        | some => exact find?_insert_of_some found }
  exact undisturbed_trans visible (undisturbed_finish apart (.ok result))

theorem callPhase_locked (known : CallPhase requestId race id call) :
    ∀ row ∈ call.written, race.rowLocks row.id = some id := by
  have locked : ∀ row, Draft race id row → race.rowLocks row.id = some id := by
    rintro _ ⟨_, ⟨_, -⟩, same, -⟩
    rwa [same]
  cases known with
  | selecting selecting => exact fun row mem => locked row (selecting.drafts row mem)
  | saving _ drafts => exact fun row mem => locked row (drafts row mem)
  | charging _ _ written earlier draft =>
    intro row mem
    rw [written, mem_append, mem_singleton] at mem
    rcases mem with before | rfl
    · exact locked row (earlier row before)
    · have own := locked _ draft
      exact own
  | returned _ unwritten => simp [unwritten]

theorem raceKnown_commit {result} (known : RaceKnown requestId race)
    (own : CallPhase requestId race id call) (stage : call.stage = .commit result) :
    RaceKnown requestId (race.commit id call result) := by
  refine raceKnown_moved known rfl (fun _ apart => undisturbed_commit apart (callPhase_locked own)) ?_ ?_
  · refine .returned rfl rfl ?_
    rintro _ ⟨⟩
    cases own with
    | selecting selecting answers =>
      rw [stage] at answers
      obtain ⟨record, found, same⟩ := answers
      refine ⟨record, ?_, same⟩
      change (call.committed race.store).records.find? requestId = some record
      rw [committed_records, selecting.uncreated]
      exact found
    | saving _ _ saving =>
      rw [stage] at saving
      cases saving
    | @charging record _ _ _ creates committing _ _ _ _ reports =>
      cases stage.symm.trans committing
      refine ⟨record, ?_, reports⟩
      have fresh := known.key (by rw [creates.holds]; exact some_ne_none _)
      change (call.committed race.store).records.find? requestId = some record
      rw [committed_records, creates.created]
      rw [← creates.request] at fresh ⊢
      exact (find?_insert fresh).trans (if_pos rfl)
    | returned ret => cases stage.symm.trans ret
  · intro locked
    obtain ⟨locked, apart⟩ := finish_keyLock _ locked
    cases own with
    | selecting selecting =>
      change (call.committed race.store).records.find? requestId = none
      rw [committed_records, selecting.uncreated]
      exact known.key locked
    | saving creates => exact absurd creates.holds apart
    | charging creates => exact absurd creates.holds apart
    | returned ret => cases stage.symm.trans ret

end Commit

/-! ## The statements -/

def SelectsRecorded (requestId : String) (race : PreConsumeRace) (event : PreConsumeEvent) : Prop :=
  ∀ id fault call sub reason record, event = .advance id fault → race.calls id = some call →
    call.stage = .findDuplicate sub reason → race.store.records.find? requestId = some record →
    record.userSubscriptionId = sub.id

section Statements

theorem callPhase_stage (known : CallPhase requestId race id call) {stage} (at_stage : call.stage = stage)
    (selects : (∀ sub, stage ≠ .save sub) ∧ (∀ result, stage ≠ .commit result) ∧ ∀ result, stage ≠ .returned result) :
    Selecting race id call ∧ StageKnown requestId race id stage := by
  cases known with
  | selecting selecting stage => exact ⟨selecting, at_stage ▸ stage⟩
  | saving _ _ saving => exact absurd (at_stage.symm.trans saving) (selects.1 _)
  | charging _ committing => exact absurd (at_stage.symm.trans committing) (selects.2.1 _)
  | returned ret => exact absurd (at_stage.symm.trans ret) (selects.2.2 _)

theorem selecting_goTo (selecting : Selecting race id call) (stage) : Selecting race id (call.goTo stage) :=
  ⟨selecting.positive, selecting.uncreated, selecting.drafts⟩

theorem raceKnown_goTo {stage} (known : RaceKnown requestId race) (selecting : Selecting race id call)
    (fits : StageKnown requestId race id stage) : RaceKnown requestId (race.setCall id (call.goTo stage)) :=
  raceKnown_setCall known (.selecting (selecting_goTo selecting stage) fits)

section Selects
variable (known : RaceKnown requestId race) (selecting : Selecting race id call)

include known selecting

theorem raceKnown_findRecord (fault : Option String) : RaceKnown requestId
    (race.findRecord requestId id call fault) := by
  unfold findRecord
  cases fault with
  | some reason => exact raceKnown_fail known call reason
  | none =>
    cases found : race.store.records.find? requestId with
    | none => exact raceKnown_goTo known selecting trivial
    | some =>
      dsimp only
      split_ifs
      · exact raceKnown_fail known call _
      · exact raceKnown_goTo known selecting found

theorem raceKnown_findSubscription {record} (recorded : race.store.records.find? requestId =
    some record) (fault : Option String) :
    RaceKnown requestId (race.findSubscription id call record fault) := by
  unfold findSubscription
  cases fault with
  | some reason => exact raceKnown_fail known call reason
  | none =>
    cases found : race.store.subscriptions.find? record.userSubscriptionId with
    | none => exact raceKnown_fail known call _
    | some =>
      refine raceKnown_goTo known selecting ⟨record, recorded, ?_, rfl⟩
      exact (find?_eq_some.mp found).2

theorem raceKnown_lock (fault : Option String) : RaceKnown requestId (race.lock userId id call fault) := by
  unfold lock
  dsimp only
  split_ifs with failed blocked
  · exact raceKnown_fail known call _
  · exact known
  · have free : ∀ sub ∈ race.store.candidates userId call.now, race.rowLocks sub.id = none := by
      intro sub mem
      by_contra locked
      exact blocked ⟨sub, mem, locked⟩
    have undisturbed : ∀ other, Undisturbed requestId other race
        ((race.setCall id (call.goTo (.plan (race.store.candidates userId call.now)))).lockRows id
          (race.store.candidates userId call.now)) := by
      intro other
      refine ⟨fun row held => ?_, fun _ _ => rfl, fun held => held, fun _ found => found⟩
      simp only [lockRows]
      rw [if_neg]
      · exact held
      · intro mem
        obtain ⟨sub, chosen, rfl⟩ := mem_map.mp mem
        rw [free sub chosen] at held
        cases held
    refine raceKnown_moved known rfl (fun other _ => undisturbed other) ?_ known.key
    refine .selecting (selecting_undisturbed (undisturbed id) (selecting_goTo selecting _)) ?_
    intro row mem
    refine ⟨if_pos (mem_map_of_mem mem), ?_⟩
    exact (current_candidates race.store userId call.now).stored row mem

theorem raceKnown_findPlan {candidates} (held : ∀ row ∈ candidates, Held race id row) (fault : Option String) :
    RaceKnown requestId (race.findPlan env id call candidates fault) := by
  cases candidates with
  | nil => exact raceKnown_fail known call _
  | cons =>
    simp only [findPlan]
    split
    · exact raceKnown_goTo known selecting (forall_mem_cons.mp held)
    · exact raceKnown_fail known call _
    · exact known

theorem raceKnown_tryCandidate {sub rest} (draft : Draft race id sub) (held : ∀ row ∈ rest, Held race id row) :
    RaceKnown requestId (race.tryCandidate id call sub rest) := by
  unfold tryCandidate
  split_ifs
  · exact raceKnown_goTo known selecting held
  · exact raceKnown_goTo known selecting draft

theorem raceKnown_maybeReset {candidate plan rest} (own : Held race id candidate)
    (held : ∀ row ∈ rest, Held race id row)
    (fault : Option String) : RaceKnown requestId (race.maybeReset env id call candidate plan rest fault) := by
  unfold maybeReset
  rcases outcome : resetOutcome env candidate plan call.now with _ | _ | row
  · exact known
  · exact raceKnown_tryCandidate known selecting ⟨candidate, own, rfl, .inl rfl⟩ held
  · cases fault with
    | some reason => exact raceKnown_fail known call reason
    | none =>
      obtain ⟨used, base, next, change, rfl⟩ := resetOutcome_row outcome
      have draft : Draft race id { candidate with amountUsed := used, lastResetTime := base, nextResetTime := next } :=
        ⟨candidate, own, rfl, change⟩
      refine raceKnown_tryCandidate known ?_ draft held
      refine ⟨selecting.positive, selecting.uncreated, ?_⟩
      intro row mem
      rcases mem_append.mp mem with earlier | last
      · exact selecting.drafts row earlier
      · rw [mem_singleton.mp last]
        exact draft

theorem raceKnown_create {sub} (draft : Draft race id sub)
    (fault : Option String) : RaceKnown requestId (race.create requestId userId id call sub fault) := by
  unfold create
  cases fault with
  | some => exact raceKnown_goTo known selecting draft
  | none =>
    dsimp only
    split_ifs with creating
    · exact known
    · rw [not_not] at creating
      cases found : race.store.records.find? requestId with
      | some => exact raceKnown_goTo known selecting draft
      | none =>
        have undisturbed : ∀ other, Undisturbed requestId other race ({ race with keyLock := some id }.setCall id
            { call with stage := .save sub, created := some ⟨requestId, userId, sub.id, call.amount, .consumed⟩ }) := by
          intro other
          refine ⟨fun _ held => held, fun _ _ => rfl, fun held => ?_, fun _ found => found⟩
          rw [creating] at held
          cases held
        refine raceKnown_moved known rfl (fun other _ => undisturbed other) ?_ (fun _ => found)
        exact .saving ⟨rfl, rfl, rfl, rfl, selecting.positive⟩
          (fun row mem => draft_undisturbed (undisturbed id) (selecting.drafts row mem)) rfl
          (draft_undisturbed (undisturbed id) draft) rfl

theorem raceKnown_findDuplicate {sub reason}
    (selects : ∀ record, race.store.records.find? requestId = some record → record.userSubscriptionId = sub.id)
    (fault : Option String) : RaceKnown requestId (race.findDuplicate requestId id call sub reason fault) := by
  unfold findDuplicate
  split
  · rename_i record found
    split_ifs
    · exact raceKnown_fail known call _
    · exact raceKnown_goTo known selecting ⟨record, found, (selects record found).symm, rfl⟩
  · exact raceKnown_fail known call _

end Selects

theorem raceKnown_save (known : RaceKnown requestId race) {record sub}
    (creates : Creates requestId race id call record) (drafts : ∀ row ∈ call.written, Draft race id row)
    (draft : Draft race id sub) (same : record.userSubscriptionId = sub.id) (fault : Option String) :
    RaceKnown requestId (race.save id call sub fault) := by
  unfold PreConsumeRace.save
  cases fault with
  | some reason => exact raceKnown_fail known call reason
  | none =>
    refine raceKnown_setCall known (.charging ⟨creates.created, creates.holds, creates.request,
      creates.amount, creates.positive⟩ rfl ?_
      drafts draft same ⟨same.symm, creates.amount.symm⟩)
    rw [withCharge, creates.amount]

theorem raceKnown_step (race event) (known : RaceKnown requestId race)
    (selects : SelectsRecorded requestId race event) : RaceKnown requestId (race.step env requestId userId event) := by
  cases event with
  | call id =>
    simp only [step]
    cases race.calls id with
    | some => exact known
    | none =>
      apply raceKnown_setCall known
      split_ifs with noUser blank nothing
      · exact .returned rfl rfl (by simp)
      · exact .returned rfl rfl (by simp)
      · exact .returned rfl rfl (by simp)
      · exact .selecting ⟨not_le.mp nothing, rfl, by simp⟩ trivial
  | advance id fault =>
    simp only [step]
    cases present : race.calls id with
    | none => exact known
    | some call =>
      have own := known.calls id call present
      simp only [advance]
      cases stage : call.stage with
      | findRecord =>
        obtain ⟨selecting, -⟩ := callPhase_stage own stage (by simp)
        exact raceKnown_findRecord known selecting fault
      | findSubscription =>
        obtain ⟨selecting, recorded⟩ := callPhase_stage own stage (by simp)
        exact raceKnown_findSubscription known selecting recorded fault
      | lock =>
        obtain ⟨selecting, -⟩ := callPhase_stage own stage (by simp)
        exact raceKnown_lock known selecting fault
      | plan =>
        obtain ⟨selecting, held⟩ := callPhase_stage own stage (by simp)
        exact raceKnown_findPlan known selecting held fault
      | reset =>
        obtain ⟨selecting, held, others⟩ := callPhase_stage own stage (by simp)
        exact raceKnown_maybeReset known selecting held others fault
      | create =>
        obtain ⟨selecting, draft⟩ := callPhase_stage own stage (by simp)
        exact raceKnown_create known selecting draft fault
      | findDuplicate sub reason =>
        obtain ⟨selecting, -⟩ := callPhase_stage own stage (by simp)
        exact raceKnown_findDuplicate known selecting
          (fun record found => selects id fault call sub reason record rfl present stage found) fault
      | save =>
        cases own with
        | selecting _ known =>
          rw [stage] at known
          exact known.elim
        | saving creates drafts saving draft same =>
          cases stage.symm.trans saving
          exact raceKnown_save known creates drafts draft same fault
        | charging _ committing => cases stage.symm.trans committing
        | returned ret => cases stage.symm.trans ret
      | commit =>
        cases fault with
        | some reason => exact raceKnown_fail known call reason
        | none => exact raceKnown_commit known own stage
      | returned => exact known

end Statements

/-! ## The charges of a run -/

def charges (race : PreConsumeRace) (event : PreConsumeEvent) : Option (Int × Int) :=
  match event with
  | .call _ _ _ => none
  | .advance id fault =>
    match race.calls id, fault with
    | some call, none =>
      match call.stage with
      | .commit _ => call.created.map fun record => (record.userSubscriptionId, record.preConsumed)
      | _ => none
    | _, _ => none

def chargesAlong (step : PreConsumeRace → PreConsumeEvent → PreConsumeRace) :
    PreConsumeRace → List PreConsumeEvent → List (Int × Int)
  | _, [] => []
  | race, event :: rest => (charges race event).toList ++ chargesAlong step (step race event) rest

def recorded (requestId : String) (race : PreConsumeRace) : Option (Int × Int) :=
  (race.store.records.find? requestId).map fun record => (record.userSubscriptionId, record.preConsumed)

section Charges

theorem advance_store {id call} (uncommitted : ∀ result, call.stage ≠ .commit result)
    (fault : Option String) : (race.advance env requestId userId id call fault).store = race.store := by
  unfold advance
  cases stage : call.stage with
  | findRecord =>
    simp only [findRecord]
    repeat' split
    all_goals rfl
  | findSubscription =>
    simp only [findSubscription]
    repeat' split
    all_goals rfl
  | lock =>
    simp only [lock]
    split_ifs <;> rfl
  | plan =>
    simp only [findPlan]
    repeat' split
    all_goals rfl
  | reset =>
    simp only [maybeReset, tryCandidate]
    repeat' split
    all_goals rfl
  | create =>
    simp only [create]
    repeat' split
    all_goals rfl
  | findDuplicate =>
    simp only [findDuplicate]
    repeat' split
    all_goals rfl
  | save =>
    simp only [PreConsumeRace.save]
    split <;> rfl
  | commit result => exact absurd stage (uncommitted result)
  | returned => rfl

theorem step_store (race event) :
    ((race.step env requestId userId event).store = race.store ∧ charges race event = none) ∨
      ∃ id call result, race.calls id = some call ∧ call.stage = .commit result ∧
        charges race event = call.created.map (fun record => (record.userSubscriptionId, record.preConsumed)) ∧
        race.step env requestId userId event = race.commit id call result := by
  cases event with
  | call id =>
    left
    simp only [step]
    cases race.calls id <;> exact ⟨rfl, rfl⟩
  | advance id fault =>
    cases present : race.calls id with
    | none =>
      left
      simp [step, charges, present]
    | some call =>
      by_cases committing : ∃ result, call.stage = .commit result
      · obtain ⟨result, stage⟩ := committing
        cases fault with
        | some =>
          left
          simp only [step, charges, present, advance, stage, and_true]
          rfl
        | none =>
          refine .inr ⟨id, call, result, present, stage, ?_, ?_⟩
          · simp only [charges, present, stage]
          · simp only [step, present, advance, stage]
      · left
        simp only [step, charges, present]
        refine ⟨advance_store (fun result stage => committing ⟨result, stage⟩) fault, ?_⟩
        cases fault with
        | some => rfl
        | none =>
          dsimp only
          split
          · rename_i result stage
            exact absurd ⟨result, stage⟩ committing
          · rfl

theorem step_recorded (known : RaceKnown requestId race) (event : PreConsumeEvent) :
    recorded requestId (race.step env requestId userId event) = (recorded requestId race).or (charges race event) ∧
      (charges race event ≠ none → recorded requestId race = none) := by
  rcases step_store race event with ⟨same, none⟩ | ⟨id, call, _, present, stage, charged, moved⟩
  · rw [recorded, same, none, or_none]
    exact ⟨rfl, fun bad => absurd rfl bad⟩
  · rw [moved, charged]
    change (((call.committed race.store).records.find? requestId).map _ = _) ∧ _
    rw [committed_records]
    cases known.calls id call present with
    | selecting selecting =>
      rw [selecting.uncreated]
      exact ⟨(or_none).symm, fun bad => absurd rfl bad⟩
    | saving _ _ saving => cases stage.symm.trans saving
    | charging creates =>
      have fresh := known.key (by rw [creates.holds]; exact some_ne_none _)
      rw [creates.created, recorded, fresh]
      refine ⟨?_, fun _ => rfl⟩
      rw [← creates.request] at fresh ⊢
      dsimp only
      rw [find?_insert fresh, if_pos rfl]
      rfl
    | returned ret => cases stage.symm.trans ret

theorem chargesAlong_recorded (events : List PreConsumeEvent) (known : RaceKnown requestId race)
    (selects : Along (step env requestId userId) (SelectsRecorded requestId) race events) :
    (recorded requestId race).toList ++ chargesAlong (step env requestId userId) race events =
      (recorded requestId (run (step env requestId userId) race events)).toList := by
  induction events generalizing race with
  | nil => exact append_nil _
  | cons event _ ih =>
    obtain ⟨after, unrecorded⟩ := @step_recorded requestId race env userId known event
    have later := ih (raceKnown_step race event known selects.1) selects.2
    rw [after] at later
    rw [run, ← later, chargesAlong, ← append_assoc]
    congr 1
    cases charged : charges race event with
    | none => simp
    | some => simp [unrecorded (by simp [charged])]

theorem commit_used {id call result} (own : CallPhase requestId race id call)
    (stage : call.stage = .commit result) (row : Int) :
    (∀ record, call.created = some record → record.userSubscriptionId = row → 0 < record.preConsumed ∧
      ((call.committed race.store).amountUsed row = race.store.amountUsed row + record.preConsumed ∨
        (call.committed race.store).amountUsed row = record.preConsumed)) ∧
    ((∀ record, call.created = some record → record.userSubscriptionId ≠ row) →
      (call.committed race.store).amountUsed row = race.store.amountUsed row ∨
        (call.committed race.store).amountUsed row = 0) := by
  have drafted : ∀ written : List UserSubscription, (∀ draft ∈ written, Draft race id draft) →
      (written.foldl saveSubscription race.store).amountUsed row = race.store.amountUsed row ∨
        (written.foldl saveSubscription race.store).amountUsed row = 0 := by
    intro written drafts
    apply foldl_save_drafts
    rintro draft mem rfl
    exact (draft_used (drafts draft mem)).2
  have visible : (call.committed race.store).amountUsed row =
      (call.written.foldl saveSubscription race.store).amountUsed row := by
    rw [amountUsed, committed_rows, amountUsed]
  rw [visible]
  cases own with
  | selecting selecting =>
    refine ⟨fun record created => ?_, fun _ => drafted _ selecting.drafts⟩
    rw [selecting.uncreated] at created
    cases created
  | saving _ _ saving => cases stage.symm.trans saving
  | returned ret => cases stage.symm.trans ret
  | @charging record sub _ drafts creates _ written earlier draft same =>
    rw [written, foldl_append, foldl_cons, foldl_nil, creates.created]
    obtain ⟨stored, used⟩ := draft_used draft
    constructor
    · rintro _ ⟨⟩ rfl
      refine ⟨creates.positive, ?_⟩
      have found := foldl_save_found drafts stored
      rw [← same] at found used
      obtain ⟨_, present⟩ := ne_none_iff_exists'.mp found
      have replaced : (((drafts.foldl saveSubscription race.store).saveSubscription
          (withCharge record.preConsumed sub)).amountUsed record.userSubscriptionId) =
            sub.amountUsed + record.preConsumed := by
        rw [amountUsed, saveSubscription, find?_save,
          if_pos (show record.userSubscriptionId = (withCharge record.preConsumed sub).id from same), present]
        rfl
      rw [replaced]
      omega
    · intro elsewhere
      have apart := elsewhere record rfl
      have kept : (((drafts.foldl saveSubscription race.store).saveSubscription
          (withCharge record.preConsumed sub)).amountUsed row) =
          (drafts.foldl saveSubscription race.store).amountUsed row := by
        rw [amountUsed, saveSubscription, find?_save, if_neg]
        · rfl
        · rintro rfl
          exact apart same
      rw [kept]
      exact drafted drafts earlier

theorem step_used (known : RaceKnown requestId race) (event) (row : Int) :
    let after := (race.step env requestId userId event).store
    (∀ amount, charges race event = some (row, amount) → 0 < amount ∧
      (after.amountUsed row = race.store.amountUsed row + amount ∨ after.amountUsed row = amount)) ∧
    ((∀ amount, charges race event ≠ some (row, amount)) →
      after.amountUsed row = race.store.amountUsed row ∨ after.amountUsed row = 0) := by
  intro after
  rcases step_store race event with ⟨same, none⟩ | ⟨id, call, _, present, stage, charged, moved⟩
  · rw [none, show after = race.store from same]
    exact ⟨fun _ bad => (by cases bad), fun _ => .inl rfl⟩
  · obtain ⟨raised, kept⟩ := commit_used (known.calls id call present) stage row
    rw [charged, show after = call.committed race.store from congrArg store moved]
    constructor
    · intro _ charge
      obtain ⟨record, created, same⟩ := map_eq_some_iff.mp charge
      obtain ⟨rfl, rfl⟩ := Prod.mk.inj same
      exact raised record created rfl
    · intro elsewhere
      apply kept
      rintro record created rfl
      exact elsewhere record.preConsumed (by rw [created]; rfl)

end Charges

/-! ## A user with one active subscription -/

def terms (sub : UserSubscription) : Int × SubscriptionStatus × Int := (sub.userId, sub.status, sub.endTime)

def Listed (store : SubscriptionStore) (userId : Int) (row : UserSubscription) : Prop :=
  (store.subscriptions.find? row.id).map terms = some (terms row) ∧ row.userId = userId ∧ row.status = .active

def stageRows : PreConsumeStage → List UserSubscription
  | .plan candidates => candidates
  | .reset candidate _ rest => candidate :: rest
  | .create sub => [sub]
  | .findDuplicate sub _ => [sub]
  | .save sub => [sub]
  | _ => []

def recordListed (store : SubscriptionStore) (userId : Int) (record : SubscriptionPreConsumeRecord) : Prop :=
  ∃ row, Listed store userId row ∧ row.id = record.userSubscriptionId

structure CallListed (store : SubscriptionStore) (userId : Int) (call : PreConsumeCall) : Prop where
  rows : ∀ row ∈ stageRows call.stage, Listed store userId row
  written : ∀ row ∈ call.written, Listed store userId row
  created : ∀ record, call.created = some record → recordListed store userId record

structure RaceListed (store : SubscriptionStore) (requestId : String) (userId : Int)
    (race : PreConsumeRace) : Prop where
  terms : ∀ id, (race.store.subscriptions.find? id).map terms = (store.subscriptions.find? id).map terms
  calls : ∀ id call, race.calls id = some call → CallListed store userId call
  record : ∀ record, race.store.records.find? requestId = some record → recordListed store userId record

section Listed
variable {store : SubscriptionStore}

theorem listed_single (single : ∀ now, (store.active userId now).length ≤ 1) {a b}
    (listed : Listed store userId a) (other : Listed store userId b) : a.id = b.id := by
  have active : ∀ row now, Listed store userId row → now < row.endTime →
    ∃ stored ∈ store.active userId now, stored.id = row.id := by
    rintro row _ ⟨found, own, going⟩ before
    obtain ⟨stored, present, same⟩ := map_eq_some_iff.mp found
    obtain ⟨user, status, ends⟩ : stored.userId = row.userId ∧ stored.status = row.status ∧
      stored.endTime = row.endTime := by
      simpa [terms] using same
    obtain ⟨mem, key⟩ := find?_eq_some.mp present
    refine ⟨stored, List.mem_filter.mpr ⟨mem, ?_⟩, key⟩
    simp only [decide_eq_true_eq, user, status, ends]
    exact ⟨own, going, before⟩
  -- Just before the first of them ends both are active.
  obtain ⟨_, firstMember, firstKey⟩ := active a (min a.endTime b.endTime - 1) listed (by omega)
  obtain ⟨_, secondMember, secondKey⟩ := active b (min a.endTime b.endTime - 1) other (by omega)
  have few := single (min a.endTime b.endTime - 1)
  rcases only : store.active userId (min a.endTime b.endTime - 1) with _ | ⟨row, _ | ⟨more, rest⟩⟩
  · rw [only] at firstMember
    cases firstMember
  · rw [only, mem_singleton] at firstMember secondMember
    rw [← firstKey, ← secondKey, firstMember, secondMember]
  · rw [only] at few
    simp at few

theorem listed_of_terms {row old} (listed : Listed store userId old) (key : row.id = old.id)
    (same : terms row = terms old) : Listed store userId row := by
  obtain ⟨found, own, going⟩ := listed
  obtain ⟨user, status, -⟩ : row.userId = old.userId ∧ row.status = old.status ∧ row.endTime = old.endTime := by
    simpa [terms] using same
  exact ⟨by rw [key, found, same], user.trans own, status.trans going⟩

theorem callListed_goTo {stage} (own : CallListed store userId call)
    (rows : ∀ row ∈ stageRows stage, Listed store userId row) : CallListed store userId (call.goTo stage) :=
  ⟨rows, own.written, own.created⟩

theorem raceListed_setCall (listed : RaceListed store requestId userId race) (own : CallListed store userId call) :
    RaceListed store requestId userId (race.setCall id call) where
  terms := listed.terms
  calls other found present := by
    rcases update_some present with ⟨rfl, rfl⟩ | ⟨-, before⟩
    · exact own
    · exact listed.calls other found before
  record := listed.record

theorem raceListed_finish (listed : RaceListed store requestId userId race) (call result) :
    RaceListed store requestId userId (race.finish id call result) := by
  have moved : RaceListed store requestId userId (race.setCall id
    ⟨call.amount, call.now, .returned result, [], none⟩) :=
    raceListed_setCall listed ⟨by simp [stageRows], by simp, by simp⟩
  exact ⟨moved.terms, moved.calls, moved.record⟩

theorem foldl_save_terms (written : List UserSubscription) (current : SubscriptionStore)
    (same : ∀ id, (current.subscriptions.find? id).map terms = (store.subscriptions.find? id).map terms)
    (rows : ∀ row ∈ written, Listed store userId row) (id : Int) :
    ((written.foldl saveSubscription current).subscriptions.find? id).map terms = (store.subscriptions.find? id).map terms := by
  induction written generalizing current with
  | nil => exact same id
  | cons row _ ih =>
    refine ih _ ?_ fun other mem => rows other (by simp [mem])
    intro other
    rw [← same other, saveSubscription, find?_save]
    split_ifs with key
    · subst key
      have found := (rows row (by simp)).1
      rw [← same row.id] at found
      rw [found]
      obtain ⟨_, present, -⟩ := map_eq_some_iff.mp found
      rw [present]
      rfl
    · rfl

section Listing
variable (listed : RaceListed store requestId userId race)

include listed

theorem raceListed_commit {result}
    (own : CallListed store userId call) : RaceListed store requestId userId (race.commit id call result) := by
  apply raceListed_finish
  refine ⟨?_, listed.calls, ?_⟩
  · intro row
    dsimp only
    rw [committed_rows]
    exact foldl_save_terms _ _ listed.terms own.written row
  · intro record found
    dsimp only at found
    rw [committed_records] at found
    cases created : call.created with
    | none =>
      rw [created] at found
      exact listed.record record found
    | some =>
      rw [created] at found
      rcases mem_insert (find?_eq_some.mp found).1 with old | rfl
      · exact listed.record record (find?_eq_some.mpr ⟨old, (find?_eq_some.mp found).2⟩)
      · exact own.created record created

theorem candidate_listed (now : Int) : ∀ row ∈ race.store.candidates userId now, Listed store userId row := by
  intro row mem
  have stored := (current_candidates race.store userId now).stored row mem
  have active := (List.mem_filter.mp ((List.mem_insertionSort endsBefore).mp mem)).2
  simp only [decide_eq_true_eq] at active
  refine ⟨?_, active.1, active.2.1⟩
  rw [← listed.terms, stored]
  rfl

theorem raceListed_tryCandidate {sub rest} (own : CallListed store userId call) (rows : ∀ row ∈ sub :: rest, Listed store userId row) :
    RaceListed store requestId userId (race.tryCandidate id call sub rest) := by
  obtain ⟨chosen, others⟩ := forall_mem_cons.mp rows
  unfold tryCandidate
  split_ifs
  · exact raceListed_setCall listed (callListed_goTo own others)
  · exact raceListed_setCall listed (callListed_goTo own (by simpa [stageRows] using chosen))

theorem raceListed_advance (own : CallListed store userId call)
    (fault : Option String) : RaceListed store requestId userId (race.advance env requestId userId id call fault) := by
  have rows := own.rows
  have failed : ∀ reason, RaceListed store requestId userId (race.fail id call reason) :=
    fun reason => raceListed_finish listed call (.error reason)
  have moves : ∀ stage, (∀ row ∈ stageRows stage, Listed store userId row) →
      RaceListed store requestId userId (race.setCall id (call.goTo stage)) :=
    fun stage rows => raceListed_setCall listed (callListed_goTo own rows)
  unfold advance
  cases stage : call.stage with
  | findRecord | findSubscription | findDuplicate =>
    simp only [findRecord, findSubscription, findDuplicate]
    repeat' split
    all_goals first | exact failed _ | exact moves _ (by simp [stageRows])
  | lock =>
    simp only [lock]
    split_ifs
    · exact failed _
    · exact listed
    · have locked := moves (.plan (race.store.candidates userId call.now)) (candidate_listed listed call.now)
      exact ⟨locked.terms, locked.calls, locked.record⟩
  | plan candidates =>
    rw [stage] at rows
    cases candidates with
    | nil => exact failed _
    | cons =>
      simp only [findPlan]
      split
      · exact moves _ rows
      · exact failed _
      · exact listed
  | reset candidate plan =>
    rw [stage] at rows
    simp only [maybeReset]
    rcases outcome : resetOutcome env candidate plan call.now with _ | _ | row
    · exact listed
    · exact raceListed_tryCandidate listed own rows
    · cases fault with
      | some reason => exact failed reason
      | none =>
        obtain ⟨chosen, others⟩ := forall_mem_cons.mp rows
        obtain ⟨used, base, next, -, rfl⟩ := resetOutcome_row outcome
        have reset : Listed store userId { candidate with amountUsed := used, lastResetTime := base, nextResetTime := next } :=
          listed_of_terms chosen rfl rfl
        refine raceListed_tryCandidate listed ⟨own.rows, ?_, own.created⟩ (forall_mem_cons.mpr ⟨reset, others⟩)
        intro row mem
        rcases mem_append.mp mem with earlier | last
        · exact own.written row earlier
        · rw [mem_singleton.mp last]
          exact reset
  | create sub =>
    rw [stage] at rows
    have chosen : Listed store userId sub := rows sub (by simp [stageRows])
    simp only [create]
    cases fault with
    | some => exact moves _ rows
    | none =>
      dsimp only
      split_ifs
      · exact listed
      · cases race.store.records.find? requestId with
        | some => exact moves _ rows
        | none =>
          have created : RaceListed store requestId userId (race.setCall id
              { call with stage := .save sub, created := some ⟨requestId, userId, sub.id, call.amount, .consumed⟩ }) := by
            apply raceListed_setCall listed
            refine ⟨rows, own.written, ?_⟩
            rintro _ ⟨⟩
            exact ⟨sub, chosen, rfl⟩
          exact ⟨created.terms, created.calls, created.record⟩
  | save sub =>
    rw [stage] at rows
    have chosen : Listed store userId sub := rows sub (by simp [stageRows])
    simp only [PreConsumeRace.save]
    cases fault with
    | some reason => exact failed reason
    | none =>
      refine raceListed_setCall listed ⟨by simp [stageRows], ?_, own.created⟩
      intro row mem
      rcases mem_append.mp mem with earlier | last
      · exact own.written row earlier
      · rw [mem_singleton.mp last]
        exact listed_of_terms chosen rfl rfl
  | commit =>
    cases fault with
    | some reason => exact failed reason
    | none => exact raceListed_commit listed own
  | returned => exact listed

theorem raceListed_step (event) : RaceListed store requestId userId (race.step env requestId userId event) := by
  cases event with
  | call id =>
    simp only [step]
    cases race.calls id with
    | some => exact listed
    | none =>
      apply raceListed_setCall listed
      refine ⟨?_, by simp, by simp⟩
      dsimp only
      split_ifs <;> simp [stageRows]
  | advance id fault =>
    simp only [step]
    cases present : race.calls id with
    | none => exact listed
    | some call => exact raceListed_advance listed (listed.calls id call present) fault

end Listing

theorem selectsRecorded_of_single (single : ∀ now, (store.active userId now).length ≤ 1) (events)
    (listed : RaceListed store requestId userId race) :
    Along (step env requestId userId) (SelectsRecorded requestId) race events := by
  induction events generalizing race with
  | nil => trivial
  | cons event _ ih =>
    refine ⟨?_, ih (raceListed_step listed event)⟩
    intro id _ call sub _ record _ present stage found
    obtain ⟨_, recorded, same⟩ := listed.record record found
    have chosen : Listed store userId sub := (listed.calls id call present).rows sub (by simp [stage, stageRows])
    rw [← same]
    exact listed_single single recorded chosen

end Listed

/-- With one active subscription at most, or if calls that meet the record while inserting have
selected its subscription, the charge of the record is the only one and every answer reports it. -/
theorem preConsume_idempotent {env : SubscriptionEnv} {requestId : String} {userId : Int} {store : SubscriptionStore}
    (fresh : store.records.find? requestId = none) (events : List PreConsumeEvent)
    (agrees : (∀ now, (store.active userId now).length ≤ 1) ∨
      Along (step env requestId userId) (SelectsRecorded requestId) (.start store) events) :
    let step := step env requestId userId
    let reached := run step (.start store) events
    chargesAlong step (.start store) events = (recorded requestId reached).toList ∧
    (∀ id call result, reached.calls id = some call → call.stage = .returned (.ok result) →
      chargesAlong step (.start store) events = [(result.userSubscriptionId, result.preConsumed)]) ∧
    ∀ event row, (∀ amount, charges reached event = some (row, amount) → 0 < amount ∧
        ((step reached event).store.amountUsed row = reached.store.amountUsed row + amount ∨
          (step reached event).store.amountUsed row = amount)) ∧
      ((∀ amount, charges reached event ≠ some (row, amount)) →
        (step reached event).store.amountUsed row = reached.store.amountUsed row ∨
          (step reached event).store.amountUsed row = 0) := by
  intro step reached
  have listed : RaceListed store requestId userId (.start store) :=
    ⟨fun _ => rfl, fun _ _ bad => (by cases bad), fun _ found => by
      rw [show (start store).store.records.find? requestId = none from fresh] at found
      cases found⟩
  have selects := agrees.elim (fun single => selectsRecorded_of_single single events listed) id
  have start : RaceKnown requestId (.start store) := ⟨fun _ _ bad => (by cases bad), fun _ => fresh⟩
  have known : RaceKnown requestId reached := run_invariant raceKnown_step start selects
  have unrecorded : recorded requestId (.start store) = none := by
    rw [recorded]
    exact map_eq_none_iff.mpr fresh
  have charged : chargesAlong step (.start store) events = (recorded requestId reached).toList := by
    have all := chargesAlong_recorded events start selects
    rwa [unrecorded] at all
  refine ⟨charged, ?_, fun event row => step_used known event row⟩
  intro id call result present stage
  have answers : Answers requestId reached result := by
    cases known.calls id call present with
    | selecting _ bad =>
      rw [stage] at bad
      exact bad.elim
    | saving _ _ saving => cases stage.symm.trans saving
    | charging _ committing => cases stage.symm.trans committing
    | returned ret _ answers =>
      cases stage.symm.trans ret
      exact answers result rfl
  obtain ⟨_, found, same, amount⟩ := answers
  rw [charged, recorded, found, same, amount]
  rfl

/-! Two calls find no record. The second one waits for the rows until the first has committed. -/

def racedRow (id total endTime : Int) : UserSubscription where
  id := id
  userId := 1
  planId := 1
  amountTotal := total
  amountUsed := 0
  startTime := 10
  endTime := endTime
  status := .active
  lastResetTime := 0
  nextResetTime := 0
  allowWalletOverflow := true

theorem dayPlan_nodup : ([dayPlan].map SubscriptionPlan.id).Nodup := by decide

def oneSubscription : SubscriptionStore := ⟨⟨[dayPlan], dayPlan_nodup⟩, ⟨[racedRow 1 20 100], by decide⟩, empty⟩

def twoSubscriptions : SubscriptionStore :=
  ⟨⟨[dayPlan], dayPlan_nodup⟩, ⟨[racedRow 1 10 100, racedRow 2 10 200], by decide⟩, empty⟩

def overlapping : List PreConsumeEvent :=
  [.call 0 10 50, .call 1 10 50, .advance 0 none, .advance 1 none] ++
    replicate 6 (.advance 0 none) ++ replicate 8 (.advance 1 none)

theorem preConsume_idempotent_overlapping :
    chargesAlong (step orderEnv.subscriptions "request" 1) (.start oneSubscription) overlapping = [(1, 10)] := by
  refine (preConsume_idempotent rfl overlapping (.inl fun _ => ?_)).2.1 1
    ⟨10, 50, .returned (.ok ⟨1, 10, 20, 10, 10⟩), [], none⟩ ⟨1, 10, 20, 10, 10⟩ (by decide +kernel) rfl
  exact length_filter_le _ _

theorem duplicate_reports_other_subscription :
    let reached := run (step orderEnv.subscriptions "request" 1) (.start twoSubscriptions) overlapping
    reached.calls 0 = some ⟨10, 50, .returned (.ok ⟨1, 10, 10, 0, 10⟩), [], none⟩ ∧
      reached.calls 1 = some ⟨10, 50, .returned (.ok ⟨2, 10, 10, 0, 0⟩), [], none⟩ ∧
      recorded "request" reached = some (1, 10) ∧ reached.store.amountUsed 1 = 10 ∧ reached.store.amountUsed 2 = 0 := by
  decide +kernel

end NewApi.Proof
