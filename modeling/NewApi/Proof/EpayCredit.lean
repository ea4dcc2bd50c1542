import NewApi.Controller.Epay
import NewApi.Library.Script
import NewApi.Proof.OrderCredit

/-! # Epay orders are credited once on one node -/

namespace NewApi.Proof
open Library Common Model Controller EpayState Table
variable {env : OrderEnv} {state after : EpayState} {request : EpayRequest} {event : EpayEvent} {tradeNo : String}

def CreditingBy (state : EpayState) (tradeNo : String) (id : Nat) : Prop :=
  ∃ request topUp, state.requests id = some request ∧ request.tradeNo = tradeNo ∧ request.stage = .crediting topUp

def CopiesMatch (state : EpayState) : Prop :=
  ∀ id request, state.requests id = some request → ∀ topUp,
    request.stage = .saving topUp ∨ request.stage = .crediting topUp →
      topUp.tradeNo = request.tradeNo ∧ (state.store.topUps.find? request.tradeNo).isSome

inductive EpayEffect (env : OrderEnv) (state : EpayState) : EpayEvent → EpayState → Prop
  | nothing (event : EpayEvent) : EpayEffect env state event state
  | rest (accounts : Accounts) (users : Int → Option User) (subscriptions : SubscriptionStore) :
      EpayEffect env state (.rest accounts users subscriptions)
        { state with store := { state.store with
            accounts := accounts, users := users, subscriptions := subscriptions } }
  | arrive (id node : Nat) (tradeNo callbackType : String) (absent : state.requests id = none) :
      EpayEffect env state (.notify id node tradeNo callbackType)
        (state.setRequest id ⟨node, tradeNo, callbackType, .waiting⟩)
  | lock (id : Nat) (fault : Bool) (request : EpayRequest) (found : state.requests id = some request)
      (stage : request.stage = .waiting) (free : state.orderLocks request.node request.tradeNo = none) :
      EpayEffect env state (.advance id fault)
        ((state.setRequest id { request with stage := .locked }).setLock request.node request.tradeNo (some id))
  | giveUp (id : Nat) (fault : Bool) (request : EpayRequest) (found : state.requests id = some request)
      (begun : request.stage ≠ .waiting ∧ request.stage ≠ .finished)
      (unpaid : ∀ topUp, request.stage = .crediting topUp → fault = true ∨ epayQuota env topUp < 0) :
      EpayEffect env state (.advance id fault) (state.finish id request)
  | read (id : Nat) (request : EpayRequest) (topUp : TopUp) (found : state.requests id = some request)
      (stage : request.stage = .locked) (stored : state.store.topUps.find? request.tradeNo = some topUp)
      (pending : topUp.status = .pending) : EpayEffect env state (.advance id false) (state.setRequest id
        { request with stage := .saving { topUp with paymentMethod := request.callbackType } })
  | save (id : Nat) (request : EpayRequest) (topUp : TopUp) (found : state.requests id = some request)
      (stage : request.stage = .saving topUp) : EpayEffect env state (.advance id false)
        ({ state with store := state.store.saveTopUp { topUp with status := .success } }.setRequest id
          { request with stage := .crediting { topUp with status := .success } })
  | credit (id : Nat) (request : EpayRequest) (topUp : TopUp) (found : state.requests id = some request)
      (stage : request.stage = .crediting topUp) : EpayEffect env state (.advance id false)
        ((state.increaseUserQuota topUp.userId (epayQuota env topUp)).finish id request)
  | manual (node : Nat) (tradeNo : String) (now : Int) (faults : Faults OrderStatement String) (topUp : TopUp)
      (free : state.orderLocks node tradeNo = none) (stored : state.store.topUps.find? tradeNo = some topUp)
      (pending : topUp.status = .pending) (positive : 0 < manualQuota env topUp) :
      EpayEffect env state (.adminComplete node tradeNo now faults)
        { state with store := paidStore state.store topUp now (· + manualQuota env topUp) id }

section Effects

variable {id : Nat}

theorem findTopUp_effect (found : state.requests id = some request) (stage : request.stage = .locked) (fault : Bool) :
    EpayEffect env state (.advance id fault) (state.findTopUp id request fault) := by
  have leave : EpayEffect env state (.advance id fault) (state.finish id request) :=
    .giveUp id fault request found (by simp [stage]) (by simp [stage])
  unfold findTopUp
  cases fault with
  | true => exact leave
  | false =>
    cases stored : state.store.topUps.find? request.tradeNo with
    | none => exact leave
    | some topUp =>
      simp only [Bool.false_eq_true, if_false]
      split_ifs with foreign closed
      · exact leave
      · exact leave
      · exact .read id request topUp found stage stored (not_not.mp closed)

theorem advance_effect (found : state.requests id = some request) (fault : Bool) :
    EpayEffect env state (.advance id fault) (state.advance env id request fault) := by
  unfold advance
  cases stage : request.stage with
  | waiting =>
    dsimp only
    split_ifs with free
    · exact .lock id fault request found stage free
    · exact .nothing _
  | locked => exact findTopUp_effect found stage fault
  | saving topUp =>
    cases fault with
    | true => exact .giveUp id true request found (by simp [stage]) (by simp)
    | false => exact .save id request topUp found stage
  | crediting topUp =>
    cases fault with
    | true => exact .giveUp id true request found (by simp [stage]) (by simp)
    | false =>
      by_cases negative : epayQuota env topUp < 0
      · dsimp only
        rw [if_pos (.inr negative)]
        refine .giveUp id false request found (by simp [stage]) fun _ same => ?_
        rw [stage] at same
        cases same
        exact .inr negative
      · dsimp only
        rw [if_neg (by simp [negative])]
        exact .credit id request topUp found stage
  | finished => exact .nothing _

theorem epayStep_effect (event) : EpayEffect env state event (state.step env event) := by
  cases event with
  | notify id node tradeNo callbackType =>
    dsimp only [step]
    cases found : state.requests id with
    | none => exact .arrive id node tradeNo callbackType found
    | some => exact .nothing _
  | advance id fault =>
    dsimp only [step]
    cases found : state.requests id with
    | none => exact .nothing _
    | some => exact advance_effect found fault
  | adminComplete node tradeNo now faults =>
    dsimp only [step]
    split_ifs with free
    · rcases manualCompleteTopUp_paid tradeNo with same | ⟨topUp, stored, pending, -, pos, after⟩
      · rw [same]
        exact .nothing _
      · rw [after]
        exact .manual node tradeNo now faults topUp free stored pending pos
    · exact .nothing _
  | rest accounts users subscriptions => exact .rest accounts users subscriptions

end Effects

/-! ## The order of one trade number -/

section Order

structure OneCrediting (state : EpayState) (tradeNo : String) : Prop where
  saved : ∀ id, CreditingBy state tradeNo id → state.status tradeNo = some .success
  unique : ∀ id other, CreditingBy state tradeNo id → CreditingBy state tradeNo other → id = other

def PaidOff (state : EpayState) (tradeNo : String) : Prop :=
  state.status tradeNo = some .success ∧ ∀ id, ¬CreditingBy state tradeNo id

def SavesPending (state : EpayState) : EpayEvent → Prop
  | .advance id false => ∀ request topUp, state.requests id = some request → request.stage = .saving topUp →
      state.status request.tradeNo = some .pending
  | _ => True

def QuotaWritten (env : OrderEnv) (state : EpayState) : EpayEvent → Prop
  | .advance id fault => ∀ request topUp, state.requests id = some request → request.stage = .crediting topUp →
      fault = false ∧ (state.store.users topUp.userId).isSome ∧ 0 < epayQuota env topUp
  | .adminComplete _ tradeNo _ _ => ∀ topUp, state.store.topUps.find? tradeNo = some topUp →
      topUp.status = .pending → (state.store.users topUp.userId).isSome
  | _ => True

def EpayCredits (env : OrderEnv) (state : EpayState) (tradeNo : String) (event : EpayEvent) : Prop :=
  (match event with
    | .advance id _ => ∃ request, state.requests id = some request ∧ request.tradeNo = tradeNo
    | .adminComplete _ number _ _ => number = tradeNo
    | _ => False) ∧
  ∃ user, state.store.accounts.userQuota user < (state.step env event).store.accounts.userQuota user

variable {id other : Nat}

theorem creditingBy_setRequest : CreditingBy (state.setRequest id request) tradeNo other ↔
      (other = id ∧ request.tradeNo = tradeNo ∧ ∃ topUp, request.stage = .crediting topUp) ∨
        (other ≠ id ∧ CreditingBy state tradeNo other) := by
  unfold CreditingBy setRequest
  by_cases same : other = id
  · subst same
    simp
  · simp [same]

theorem creditingBy_finish :
    CreditingBy (state.finish id request) tradeNo other ↔ other ≠ id ∧ CreditingBy state tradeNo other := by
  have locks : CreditingBy (state.finish id request) tradeNo other ↔
      CreditingBy (state.setRequest id { request with stage := .finished }) tradeNo other := Iff.rfl
  rw [locks, creditingBy_setRequest]
  simp

inductive EpayOrderEffect (env : OrderEnv) (state : EpayState) (event : EpayEvent) (tradeNo : String)
    (after : EpayState) : Prop
  | kept (status : after.status tradeNo = state.status tradeNo)
      (crediting : ∀ id, CreditingBy after tradeNo id ↔ CreditingBy state tradeNo id)
      (silent : ¬EpayCredits env state tradeNo event)
  | saved (id : Nat) (status : after.status tradeNo = some .success) (owes : CreditingBy after tradeNo id)
      (others : ∀ other, CreditingBy after tradeNo other → other = id ∨ CreditingBy state tradeNo other)
      (pending : SavesPending state event → state.status tradeNo = some .pending)
        (silent : ¬EpayCredits env state tradeNo event)
  | settled (id : Nat) (status : after.status tradeNo = state.status tradeNo) (owed : CreditingBy state tradeNo id)
      (others : ∀ other, CreditingBy after tradeNo other ↔ other ≠ id ∧ CreditingBy state tradeNo other)
      (credits : QuotaWritten env state event → EpayCredits env state tradeNo event)
  | completed (pending : state.status tradeNo = some .pending) (status : after.status tradeNo = some .success)
      (crediting : ∀ id, CreditingBy after tradeNo id ↔ CreditingBy state tradeNo id)
      (credits : QuotaWritten env state event → EpayCredits env state tradeNo event)

theorem not_epayCredits (same : (state.step env event).store.accounts = state.store.accounts) :
    ¬EpayCredits env state tradeNo event := by
  rintro ⟨-, _, more⟩
  rw [same] at more
  exact lt_irrefl _ more

theorem not_creditingBy (found : state.requests id = some request)
    (stage : ∀ topUp, request.stage ≠ .crediting topUp) : ¬CreditingBy state tradeNo id := by
  rintro ⟨other, topUp, found', -, crediting⟩
  obtain rfl : request = other := Option.mem_unique found found'
  exact stage topUp crediting

theorem creditingBy_kept (before : ¬CreditingBy state tradeNo id) (stage : ∀ topUp, request.stage ≠ .crediting topUp) :
    CreditingBy (state.setRequest id request) tradeNo other ↔ CreditingBy state tradeNo other := by
  rw [creditingBy_setRequest]
  constructor
  · rintro (⟨-, -, topUp, crediting⟩ | ⟨-, still⟩)
    · exact absurd crediting (stage topUp)
    · exact still
  · intro still
    refine .inr ⟨?_, still⟩
    rintro rfl
    exact before still

theorem creditingBy_otherOrder {changed}
    (found : state.requests id = some request) (foreign : request.tradeNo ≠ tradeNo)
    (same : changed.tradeNo = request.tradeNo) :
    CreditingBy (state.setRequest id changed) tradeNo other ↔ CreditingBy state tradeNo other := by
  rw [creditingBy_setRequest]
  constructor
  · rintro (⟨-, number, -⟩ | ⟨-, still⟩)
    · exact absurd (same.symm.trans number) foreign
    · exact still
  · intro still
    refine .inr ⟨?_, still⟩
    rintro rfl
    obtain ⟨_, _, found', number, -⟩ := still
    cases found.symm.trans found'
    exact foreign number

theorem status_store (same : after.store.topUps = state.store.topUps) :
    after.status tradeNo = state.status tradeNo := by
  rw [status, same, status]

theorem status_saveTopUp {number row} (topUp) (same : topUp.tradeNo = number)
    (stored : state.store.topUps.find? number = some row) (tradeNo : String) :
    { state with store := state.store.saveTopUp topUp }.status tradeNo =
      if tradeNo = number then some topUp.status else state.status tradeNo := by
  simp only [status, OrderStore.saveTopUp, find?_save_of_some stored same]
  split_ifs <;> rfl

theorem epayOrder_effect (copies : CopiesMatch state) (effect : EpayEffect env state event after)
    (stepped : state.step env event = after) : EpayOrderEffect env state event tradeNo after := by
  cases effect with
  | nothing => exact .kept rfl (fun _ => Iff.rfl) (not_epayCredits (by rw [stepped]))
  | rest => exact .kept rfl (fun _ => Iff.rfl) fun credits => credits.1
  | arrive _ _ _ _ absent =>
    refine .kept rfl (fun other => creditingBy_kept ?_ (by simp)) fun credits => credits.1
    rintro ⟨_, _, found, -⟩
    rw [absent] at found
    cases found
  | lock id fault request found stage free | read id request topUp found stage stored pending =>
    refine .kept rfl (fun other => creditingBy_kept (not_creditingBy found (by simp [stage])) (by simp)) ?_
    exact not_epayCredits (by rw [stepped]; rfl)
  | giveUp id fault request found _ unpaid =>
    have silent : ¬EpayCredits env state tradeNo (.advance id fault) := not_epayCredits (by rw [stepped]; rfl)
    by_cases owed : CreditingBy state tradeNo id
    · refine .settled id rfl owed (fun _ => creditingBy_finish) fun written => ?_
      obtain ⟨_, topUp, found', -, crediting⟩ := owed
      cases found.symm.trans found'
      obtain ⟨works, -, _⟩ := written request topUp found crediting
      rcases unpaid topUp crediting with fails | negative
      · rw [works] at fails
        cases fails
      · omega
    · refine .kept rfl (fun other => ?_) silent
      rw [creditingBy_finish]
      exact ⟨fun ⟨_, still⟩ => still, fun still => ⟨by rintro rfl; exact owed still, still⟩⟩
  | save id request topUp found stage =>
    have silent : ¬EpayCredits env state tradeNo (.advance id false) := not_epayCredits (by rw [stepped]; rfl)
    obtain ⟨number, present⟩ := copies id request found topUp (.inl stage)
    obtain ⟨_, stored⟩ := Option.isSome_iff_exists.mp present
    have status := status_saveTopUp { topUp with status := .success } number stored tradeNo
    by_cases same : tradeNo = request.tradeNo
    · subst same
      refine .saved id (status.trans (if_pos rfl)) ?_ (fun _ owes => ?_) (fun saves => ?_) silent
      · exact creditingBy_setRequest.mpr (.inl ⟨rfl, rfl, _, rfl⟩)
      · exact (creditingBy_setRequest.mp owes).imp (fun own => own.1) fun still => still.2
      · exact saves request topUp found stage
    · exact .kept (status.trans (if_neg same)) (fun _ => creditingBy_otherOrder found (Ne.symm same) rfl) silent
  | credit id request topUp found stage =>
    by_cases same : request.tradeNo = tradeNo
    · refine .settled id (status_store (updateUser_topUps _ _ _ _))
        ⟨request, topUp, found, same, stage⟩ (fun _ => creditingBy_finish)
        fun written => ⟨⟨request, found, same⟩, ?_⟩
      obtain ⟨-, present, _⟩ := written request topUp found stage
      rw [stepped]
      exact updateUser_raises present fun _ => by omega
    · refine .kept (status_store (updateUser_topUps _ _ _ _))
        (fun _ => creditingBy_otherOrder found same rfl) fun credits => ?_
      obtain ⟨⟨_, found', number⟩, -⟩ := credits
      cases found.symm.trans found'
      exact same number
  | manual _ number now _ topUp _ stored pending =>
    have status :
      { state with store := paidStore state.store topUp now (· + manualQuota env topUp) id }.status
      tradeNo =
        if tradeNo = number then some .success else state.status tradeNo := by
      simp only [status, paidStore_find? stored]
      split_ifs <;> rfl
    by_cases same : tradeNo = number
    · subst same
      refine .completed ?_ (status.trans (if_pos rfl)) (fun _ => Iff.rfl) fun written => ⟨rfl, ?_⟩
      · simp [EpayState.status, stored, pending]
      · rw [stepped]
        exact paidStore_raises (written topUp stored pending) fun _ => by omega
    · exact .kept (status.trans (if_neg same)) (fun _ => Iff.rfl) fun credits => same credits.1.symm

end Order

/-! ## Histories -/

section Histories

theorem stored_step (effect : EpayEffect env state event after) (number : String)
    (stored : (state.store.topUps.find? number).isSome) : (after.store.topUps.find? number).isSome := by
  cases effect with
  | nothing | rest | arrive | lock | giveUp | read => exact stored
  | save _ _ topUp =>
    change ((state.store.topUps.save { topUp with status := .success }).find? number).isSome
    rw [find?_save]
    split_ifs <;> simpa using stored
  | credit _ _ topUp =>
    change ((state.store.updateUser topUp.userId (· + epayQuota env topUp) fun user => user).topUps.find? number).isSome
    rwa [updateUser_topUps]
  | manual _ _ now _ topUp _ found =>
    change ((paidStore state.store topUp now (· + manualQuota env topUp) id).topUps.find? number).isSome
    rw [paidStore_find? found]
    split_ifs
    · rfl
    · exact stored

theorem copiesMatch_request {id request} (copies : CopiesMatch state)
    (stored : ∀ number, (state.store.topUps.find? number).isSome → (after.store.topUps.find? number).isSome)
    (requests : after.requests = Function.update state.requests id (some request))
    (own : ∀ topUp, request.stage = .saving topUp ∨ request.stage = .crediting topUp →
      topUp.tradeNo = request.tradeNo ∧ (state.store.topUps.find? request.tradeNo).isSome) : CopiesMatch after := by
  intro other changed found topUp stage
  rw [requests] at found
  by_cases same : other = id
  · subst same
    rw [Function.update_self] at found
    cases found
    exact (own topUp stage).imp_right (stored _)
  · rw [Function.update_of_ne same] at found
    exact (copies other changed found topUp stage).imp_right (stored _)

theorem copiesMatch_step (copies : CopiesMatch state) : CopiesMatch (state.step env event) := by
  have effect : EpayEffect env state event (state.step env event) := epayStep_effect event
  have stored := stored_step effect
  generalize state.step env event = after at effect stored ⊢
  cases effect with
  | nothing => exact copies
  | rest | manual => exact fun id request found topUp stage =>
      (copies id request found topUp stage).imp_right (stored _)
  | arrive | lock | giveUp | credit => exact copiesMatch_request copies stored rfl (by simp)
  | read _ _ _ _ stage row =>
    refine copiesMatch_request copies stored rfl fun _ stage => ?_
    simp only [EpayStage.saving.injEq, reduceCtorEq, or_false] at stage
    cases stage
    exact ⟨(find?_eq_some.mp row).2, by rw [row]; rfl⟩
  | save id request topUp found stage =>
    refine copiesMatch_request copies stored rfl fun _ stage' => ?_
    simp only [EpayStage.crediting.injEq, reduceCtorEq, false_or] at stage'
    cases stage'
    exact copies id request found topUp (.inl stage)

theorem epayOrder_step (env event) (tradeNo : String) (copies : CopiesMatch state) :
    EpayOrderEffect env state event tradeNo (state.step env event) :=
  epayOrder_effect copies (epayStep_effect event) rfl

structure EpayKnown (tradeNo : String) (state : EpayState) : Prop where
  copies : CopiesMatch state
  one : OneCrediting state tradeNo

theorem epayKnown_step (known : EpayKnown tradeNo state) (saves : SavesPending state event) :
    EpayKnown tradeNo (state.step env event) := by
  refine ⟨copiesMatch_step known.copies, ?_⟩
  obtain ⟨saved, unique⟩ := known.one
  cases epayOrder_step env event tradeNo known.copies with
  | kept status crediting =>
    exact ⟨fun id owes => status ▸ saved id ((crediting id).mp owes),
      fun id other owes owes' => unique id other ((crediting id).mp owes) ((crediting other).mp owes')⟩
  | saved id status owes others pending =>
    -- The order was pending, so nothing was owed for it before.
    have only (other : Nat) (owes : CreditingBy (state.step env event) tradeNo other) : other = id := by
      rcases others other owes with same | before
      · exact same
      · exact absurd ((saved other before).symm.trans (pending saves)) (by simp)
    exact ⟨fun _ _ => status, fun id other owes owes' => (only id owes).trans (only other owes').symm⟩
  | settled _ status _ others =>
    exact ⟨fun other owes => status ▸ saved other ((others other).mp owes).2,
      fun first second owes owes' => unique first second ((others first).mp owes).2 ((others second).mp owes').2⟩
  | completed _ status crediting =>
    exact ⟨fun _ _ => status, fun id other owes owes' =>
      unique id other ((crediting id).mp owes) ((crediting other).mp owes')⟩

theorem paidOff_credits (known : EpayKnown tradeNo state)
    (credits : EpayCredits env state tradeNo event) : PaidOff (state.step env event) tradeNo := by
  obtain ⟨saved, unique⟩ := known.one
  cases epayOrder_step env event tradeNo known.copies with
  | kept _ _ silent => exact absurd credits silent
  | saved _ _ _ _ _ silent => exact absurd credits silent
  | settled id status owed others =>
    refine ⟨status.trans (saved id owed), fun other owes => ?_⟩
    obtain ⟨ne, before⟩ := (others other).mp owes
    exact ne (unique other id before owed)
  | completed pending status crediting =>
    refine ⟨status, fun id owes => ?_⟩
    exact absurd ((saved id ((crediting id).mp owes)).symm.trans pending) (by simp)

def PaidOffKnown (tradeNo : String) (state : EpayState) : Prop := EpayKnown tradeNo state ∧ PaidOff state tradeNo

theorem paidOff_step (known : EpayKnown tradeNo state) (saves : SavesPending state event)
    (paid : PaidOff state tradeNo) :
    PaidOff (state.step env event) tradeNo ∧ ¬EpayCredits env state tradeNo event := by
  obtain ⟨success, nobody⟩ := paid
  cases epayOrder_step env event tradeNo known.copies with
  | kept status crediting silent =>
      exact ⟨⟨status.trans success, fun id owes => nobody id ((crediting id).mp owes)⟩, silent⟩
  | saved _ _ _ _ pending => exact absurd ((pending saves).symm.trans success) (by simp)
  | settled id _ owed => exact absurd owed (nobody id)
  | completed pending => exact absurd (pending.symm.trans success) (by simp)

theorem credits_of_paidOff (known : EpayKnown tradeNo state) (written : QuotaWritten env state event)
    (before : ¬PaidOff state tradeNo) (paid : PaidOff (state.step env event) tradeNo) :
    EpayCredits env state tradeNo event := by
  obtain ⟨success, nobody⟩ := paid
  cases epayOrder_step env event tradeNo known.copies with
  | kept status crediting => exact absurd ⟨status.symm.trans success, fun id owes =>
      nobody id ((crediting id).mpr owes)⟩ before
  | saved id _ owes => exact absurd owes (nobody id)
  | settled _ _ _ _ credits => exact credits written
  | completed _ _ _ credits => exact credits written

theorem epayKnown_start (tradeNo : String) (store) : EpayKnown tradeNo (.start store) where
  copies := fun _ _ found => nomatch found
  one := ⟨fun _ ⟨_, _, found, _⟩ => (nomatch found), fun _ _ ⟨_, _, found, _⟩ => (nomatch found)⟩

theorem epayKnown_run {events} (known : EpayKnown tradeNo state) (saves : Along (step env) SavesPending state events) :
    EpayKnown tradeNo (run (step env) state events) :=
  run_invariant (fun _ _ => epayKnown_step) known saves

end Histories

/-- If requests save only pending orders, an order is credited at most once; if quotas are written after the save, a
successful order has been credited. -/
theorem epayOrder_credited_once (env : OrderEnv) (store : OrderStore) (tradeNo : String) (events : List EpayEvent)
    (saves : Along (step env) SavesPending (.start store) events) :
    (∀ first event middle later last, events = first ++ event :: (middle ++ later :: last) →
      EpayCredits env (run (step env) (.start store) first) tradeNo event →
      ¬EpayCredits env (run (step env) (.start store) (first ++ event :: middle)) tradeNo later) ∧
    (Along (step env) (QuotaWritten env) (.start store) events →
      let final := run (step env) (.start store) events
      (start store).status tradeNo ≠ some .success → final.status tradeNo = some .success →
      (∀ id, ¬CreditingBy final tradeNo id) → ∃ first event rest, events = first ++ event :: rest ∧
        EpayCredits env (run (step env) (.start store) first) tradeNo event) := by
  constructor
  · rintro first event middle _ _ rfl credits
    obtain ⟨savesFirst, savesEvent, savesRest⟩ := along_append.mp saves
    obtain ⟨savesMiddle, savesLater, -⟩ := along_append.mp savesRest
    have known := epayKnown_run (epayKnown_start tradeNo store) savesFirst
    have paid := paidOff_credits known credits
    have kept : PaidOffKnown tradeNo (run (step env) ((run (step env) (.start store) first).step env event) middle) :=
      run_invariant (fun _ _ holds saves => ⟨epayKnown_step holds.1 saves, (paidOff_step holds.1 saves holds.2).1⟩)
        ⟨epayKnown_step known savesEvent, paid⟩ savesMiddle
    rw [run_append]
    exact (paidOff_step kept.1 savesLater kept.2).2
  · intro written final before success nobody
    obtain ⟨first, event, rest, rfl, unpaid, paid⟩ := run_origin (fun state => PaidOff state tradeNo)
      (fun paid => before paid.1) (⟨success, nobody⟩ : PaidOff final tradeNo)
    refine ⟨first, event, rest, rfl, ?_⟩
    exact credits_of_paidOff (epayKnown_run (epayKnown_start tradeNo store)
      (along_append.mp saves).1) (along_at written) unpaid paid

/-! ## One node -/

def OnNode (node : Nat) : EpayEvent → Prop
  | .notify _ other _ _ => other = node
  | .adminComplete other _ _ _ => other = node
  | _ => True

structure NodeKnown (node : Nat) (state : EpayState) : Prop where
  here : ∀ id request, state.requests id = some request → request.node = node
  holds : ∀ id request, state.requests id = some request → request.stage ≠ .waiting → request.stage ≠ .finished →
    state.orderLocks node request.tradeNo = some id
  pending : ∀ id request topUp, state.requests id = some request → request.stage = .saving topUp →
    state.status request.tradeNo = some .pending

section Node
variable {node : Nat}

theorem setLock_apply (state : EpayState) (node : Nat) (tradeNo number : String) (holder : Option Nat) :
    (state.setLock node tradeNo holder).orderLocks node number =
      if number = tradeNo then holder else state.orderLocks node number := by
  simp [setLock, Function.update_apply]

variable {id : Nat} {changed : EpayRequest}

section Known
variable (known : NodeKnown node state)
include known

theorem nodeKnown_update (requests : after.requests = Function.update state.requests id
    (some changed)) (here : changed.node = node)
    (own : changed.stage ≠ .waiting → changed.stage ≠ .finished → after.orderLocks node changed.tradeNo = some id)
    (pending : ∀ topUp, changed.stage = .saving topUp → after.status changed.tradeNo = some .pending)
    (locks : ∀ tradeNo other, other ≠ id → state.orderLocks node tradeNo = some other →
    after.orderLocks node tradeNo = some other)
    (status : ∀ tradeNo other, other ≠ id → state.orderLocks node tradeNo = some other →
    after.status tradeNo = state.status tradeNo) :
    NodeKnown node after := by
  refine ⟨fun other row among => ?_, fun other row among waits ends => ?_, fun other row topUp among stage => ?_⟩
  all_goals
    rw [requests] at among
    rcases update_some among with ⟨rfl, rfl⟩ | ⟨ne, before⟩
  · exact here
  · exact known.here other row before
  · exact own waits ends
  · exact locks _ _ ne (known.holds other row before waits ends)
  · exact pending topUp stage
  · rw [status _ _ ne (known.holds other row before (by simp [stage]) (by simp [stage]))]
    exact known.pending other row topUp before stage

section
variable (found : state.requests id = some request)
include found

theorem nodeKnown_move (begun : request.stage ≠ .waiting ∧ request.stage ≠ .finished)
    (requests : after.requests = Function.update state.requests id (some changed))
    (locks : after.orderLocks = state.orderLocks) (sameNode : changed.node = request.node)
    (sameTrade : changed.tradeNo = request.tradeNo)
    (status : ∀ tradeNo, tradeNo ≠ request.tradeNo → after.status tradeNo = state.status tradeNo)
    (own : ∀ topUp, changed.stage = .saving topUp → after.status request.tradeNo = some .pending) :
    NodeKnown node after := by
  have holder := known.holds id request found begun.1 begun.2
  refine nodeKnown_update known requests (sameNode.trans (known.here id request found)) ?_ (sameTrade ▸ own) ?_ ?_
  · rw [locks, sameTrade]
    exact fun _ _ => holder
  · rw [locks]
    exact fun _ _ _ held => held
  · intro tradeNo _ ne held
    refine status tradeNo ?_
    rintro rfl
    exact ne (Option.mem_unique held holder)

theorem nodeKnown_finish (begun : request.stage ≠ .waiting ∧ request.stage ≠ .finished) :
    NodeKnown node (state.finish id request) := by
  have holder := known.holds id request found begun.1 begun.2
  have here := known.here id request found
  refine nodeKnown_update known rfl here (fun _ ends => absurd rfl ends) (by simp) (fun _ _ ne held => ?_)
    fun _ _ _ _ => rfl
  rw [finish, here, setLock_apply, if_neg]
  · exact held
  · rintro rfl
    exact ne (Option.mem_unique held holder)

theorem nodeKnown_lock (free : state.orderLocks request.node request.tradeNo = none) :
    NodeKnown node ((state.setRequest id { request with stage := .locked }).setLock request.node
      request.tradeNo (some id)) := by
  rw [known.here id request found] at free ⊢
  refine nodeKnown_update known rfl rfl (fun _ _ => by rw [setLock_apply, if_pos rfl]) (by simp) (fun _ _ _ held => ?_)
    fun _ _ _ _ => rfl
  rw [setLock_apply, if_neg]
  · exact held
  · rintro rfl
    cases held.symm.trans free

end

theorem nodeKnown_step (copies : CopiesMatch state) (local_ : OnNode node event) :
    NodeKnown node (state.step env event) := by
  have effect : EpayEffect env state event (state.step env event) := epayStep_effect event
  generalize state.step env event = after at effect ⊢
  cases effect with
  | nothing => exact known
  | rest => exact ⟨known.here, known.holds, known.pending⟩
  | arrive =>
    exact nodeKnown_update known rfl local_ (fun waits => absurd rfl waits) (by simp)
      (fun _ _ _ held => held) fun _ _ _ _ => rfl
  | lock _ _ _ found _ free => exact nodeKnown_lock known found free
  | giveUp _ _ _ found begun => exact nodeKnown_finish known found begun
  | read _ _ _ found stage stored pending =>
    refine nodeKnown_move known found (by simp [stage]) rfl rfl rfl rfl (fun _ _ => rfl) fun copy _ => ?_
    simp [status, setRequest, stored, pending]
  | save id request topUp found stage =>
    obtain ⟨number, present⟩ := copies id request found topUp (.inl stage)
    obtain ⟨_, stored⟩ := Option.isSome_iff_exists.mp present
    refine nodeKnown_move known found (by simp [stage]) rfl rfl rfl rfl (fun tradeNo other => ?_) (by simp)
    exact (status_saveTopUp { topUp with status := .success } number stored tradeNo).trans (if_neg other)
  | credit _ _ topUp found stage =>
    have credited : NodeKnown node (state.increaseUserQuota topUp.userId (epayQuota env topUp)) :=
      ⟨known.here, known.holds, fun other row copy among saving =>
        (status_store (updateUser_topUps _ _ _ _)).trans (known.pending other row copy among saving)⟩
    exact nodeKnown_finish credited found (by simp [stage])
  | manual other tradeNo _ _ _ free stored pending =>
    refine ⟨known.here, known.holds, fun id row copy among saving => ?_⟩
    have holder := known.holds id row among (by simp [saving]) (by simp [saving])
    have ne : row.tradeNo ≠ tradeNo := by
      rintro rfl
      rw [← show other = node from local_, free] at holder
      cases holder
    rw [← known.pending id row copy among saving]
    simp only [status, paidStore_find? stored, if_neg ne]

end Known

end Node

theorem savesPending_one_node (env store) (node : Nat) (events)
    (local_ : ∀ event ∈ events, OnNode node event) : Along (step env) SavesPending (.start store) events := by
  have keeps (state : EpayState) (event : EpayEvent) (holds : NodeKnown node state ∧ CopiesMatch state)
      (here : OnNode node event) : NodeKnown node (state.step env event) ∧ CopiesMatch (state.step env event) :=
    ⟨nodeKnown_step holds.1 holds.2 here, copiesMatch_step holds.2⟩
  have start : NodeKnown node (.start store) ∧ CopiesMatch (.start store) :=
    ⟨⟨fun _ _ found => (nomatch found), fun _ _ found => (nomatch found), fun _ _ _ found => (nomatch found)⟩,
      fun _ _ found => (nomatch found)⟩
  have known := along_invariant keeps start (along_of_forall fun event mem _ => local_ event mem)
  refine along_mono (fun state event ⟨⟨known, _⟩, _⟩ => ?_) known
  cases event with
  | advance id fault =>
    cases fault with
    | true => trivial
    | false => exact fun request topUp found stage => known.pending id request topUp found stage
  | notify => trivial
  | adminComplete => trivial
  | rest => trivial

def epayTopUp : TopUp where
  userId := 1
  amount := 2
  money := 14
  tradeNo := "USR1NO1"
  paymentMethod := "alipay"
  paymentProvider := .epay
  createTime := 50
  completeTime := 0
  status := .pending

def epayStore : OrderStore where
  accounts := ⟨fun _ => 0, fun _ => 0, fun _ => ⟨0, 0⟩, fun _ => 0, fun _ => none⟩
  users := fun _ => some ⟨"", "", "default"⟩
  subscriptions := ⟨empty, empty, empty⟩
  topUps := empty.insert epayTopUp
  orders := empty

def repeatedNotification : List EpayEvent :=
  [.notify 1 0 "USR1NO1" "alipay", .advance 1 false, .advance 1 false, .notify 2 0 "USR1NO1" "alipay",
    .advance 2 false, .advance 1 false, .advance 1 false, .advance 2 false, .advance 2 false]

theorem epayOrder_credited_repeated :
    EpayCredits orderEnv (run (step orderEnv) (.start epayStore) (repeatedNotification.take 6))
      "USR1NO1" (.advance 1 false) ∧
      ¬EpayCredits orderEnv (run (step orderEnv) (.start epayStore) (repeatedNotification.take 8)) "USR1NO1"
        (.advance 2 false) := by
  have saves := savesPending_one_node orderEnv epayStore 0 repeatedNotification (by simp [repeatedNotification, OnNode])
  have once := epayOrder_credited_once orderEnv epayStore "USR1NO1" repeatedNotification saves
  have credits : EpayCredits orderEnv (run (step orderEnv) (.start epayStore) (repeatedNotification.take 6))
      "USR1NO1" (.advance 1 false) := ⟨⟨_, rfl, rfl⟩, 1, by decide +kernel⟩
  exact ⟨credits, once.1 (repeatedNotification.take 6) (.advance 1 false) [.advance 2 false]
    (.advance 2 false) [] rfl credits⟩

def twoNodes : List EpayEvent :=
  [.notify 1 0 "USR1NO1" "alipay", .notify 2 1 "USR1NO1" "alipay", .advance 1 false, .advance 2 false,
    .advance 1 false, .advance 2 false, .advance 1 false, .advance 1 false, .advance 2 false, .advance 2 false]

def quotaWriteFails : List EpayEvent :=
  [.notify 1 0 "USR1NO1" "alipay", .advance 1 false, .advance 1 false, .advance 1 false, .advance 1 true]

theorem epayOrder_credited_twice : epayQuota orderEnv epayTopUp = 1000000 ∧
      (run (step orderEnv) (.start epayStore) twoNodes).store.accounts.userQuota 1 = 2000000 ∧
      (run (step orderEnv) (.start epayStore) quotaWriteFails).status "USR1NO1" = some .success ∧
      (run (step orderEnv) (.start epayStore) quotaWriteFails).store.accounts.userQuota 1 = 0 ∧
      (run (step orderEnv) (.start epayStore) quotaWriteFails).requests 1 =
        some ⟨0, "USR1NO1", "alipay", .finished⟩ := by
  decide +kernel

end NewApi.Proof
