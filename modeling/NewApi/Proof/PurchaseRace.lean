import NewApi.Model.PurchaseRace
import NewApi.Proof.SubscriptionRows

/-! # The purchase limit -/

namespace NewApi.Proof
open Library Model Common Script PurchaseRace PurchaseDb Purchase Function List Option
variable {env : OrderEnv} {call : PurchaseCall} {userId : Int} {db after : PurchaseDb}

abbrev PurchasePast := List (Entry PurchaseStatement PurchaseStatement.Answer String)

variable (past : PurchasePast)

def Ended : Prop := ∃ entry ∈ past, entry.1.ends

def Created : Prop := ∃ entry ∈ past, ∃ sub, entry.1 = .write (.createSubscription sub)

def UserLocked (userId : Int) : Prop := ∃ quota, ⟨.lockUser userId, .ok (some quota)⟩ ∈ past

def CountedBelow (userId planId limit : Int) : Prop :=
  ∃ count : Nat, count < limit ∧ ⟨.count userId planId, .ok count⟩ ∈ past

def Counting (userId planId : Int) : Prop :=
  ¬Ended past ∧ ∃ count, ⟨.count userId planId, .ok count⟩ ∈ past

def KnowsPlan (env : SubscriptionEnv) (past : PurchasePast) (plan : SubscriptionPlan) : Prop :=
  ∃ id, 0 < id ∧ (env.planCache id = some plan ∨ (env.planCache id = none ∧ ⟨.findPlan id, .ok (some plan)⟩ ∈ past))

def fromBalance : PurchaseCall → Prop
  | .withBalance _ _ _ _ _ => True
  | _ => False

def MayRun (env : SubscriptionEnv) (call : PurchaseCall) (past : PurchasePast) (statement : PurchaseStatement) : Prop :=
  ¬Ended past ∧
  (∀ userId planId, statement = .count userId planId → ¬Created past ∧ (fromBalance call → UserLocked past userId)) ∧
  (∀ sub, statement = .write (.createSubscription sub) → ¬Created past ∧
    ∃ plan, KnowsPlan env past plan ∧ sub.planId = plan.id ∧
      (0 < plan.maxPurchasePerUser → CountedBelow past sub.userId plan.id plan.maxPurchasePerUser))

def Harmless : PurchaseStatement → Prop
  | .count _ _ | .write (.createSubscription _) | .commit | .rollback => False
  | _ => True

/-! ## The scripts -/

structure Quiet (past later : PurchasePast) : Prop where
  grows : past ⊆ later
  ended : Ended later → Ended past
  created : Created later → Created past

section Past
variable {past later last : PurchasePast} {statement : PurchaseStatement} {answer : Except String statement.Answer}

theorem quiet_refl (past) : Quiet past past := ⟨List.Subset.refl past, id, id⟩

theorem quiet_trans (first : Quiet past later) (second : Quiet later last) : Quiet past last :=
  ⟨List.Subset.trans first.grows second.grows, first.ended ∘ second.ended, first.created ∘ second.created⟩

theorem ended_append : Ended (past ++ [⟨statement, answer⟩]) ↔ Ended past ∨ statement.ends := by
  simp [Ended, or_and_right, exists_or]

theorem created_append : Created (past ++ [⟨statement, answer⟩]) ↔ Created past ∨
    ∃ sub, statement = .write (.createSubscription sub) := by
  simp [Created, or_and_right, exists_or]

theorem quiet_append (stays : ¬statement.ends) (creates : ∀ sub, statement ≠ .write (.createSubscription sub)) :
    Quiet past (past ++ [⟨statement, answer⟩]) where
  grows := subset_append_left past _
  ended ended := (ended_append.mp ended).resolve_right stays
  created created := (created_append.mp created).resolve_right fun ⟨sub, same⟩ => creates sub same

theorem userLocked_mono (grows : past ⊆ later) {userId : Int} : UserLocked past userId → UserLocked later userId :=
  fun ⟨quota, mem⟩ => ⟨quota, grows mem⟩

theorem countedBelow_mono (grows : past ⊆ later) {userId planId limit : Int} :
    CountedBelow past userId planId limit → CountedBelow later userId planId limit :=
  fun ⟨count, below, mem⟩ => ⟨count, below, grows mem⟩

theorem knowsPlan_mono (grows : past ⊆ later) {env plan} : KnowsPlan env past plan → KnowsPlan env later plan :=
  fun ⟨id, pos, source⟩ => ⟨id, pos, source.imp_right fun ⟨missed, mem⟩ => ⟨missed, grows mem⟩⟩

end Past

section Scripts
-- Unification would evaluate the groups of the plan.
attribute [local irreducible] trimSpace

variable {past : PurchasePast}

abbrev Runs (env : OrderEnv) (call : PurchaseCall) {α : Type} (returns : PurchasePast → Except String α → Prop)
    (past : PurchasePast) (script : PurchaseScript α) : Prop :=
  script.Conforms (MayRun env.subscriptions call) returns past

section
variable (running : ¬Ended past)
include running

theorem runs_query {statement} (harmless : Harmless statement) :
    Runs env call (fun later answer => Quiet past later ∧ ⟨statement, answer⟩ ∈ later) past (query statement) := by
  refine conforms_statement ⟨running, ?_, ?_⟩ fun _ => ⟨quiet_append ?_ ?_, by simp⟩
  · rintro _ _ rfl
    exact harmless.elim
  · rintro _ rfl
    exact harmless.elim
  · rintro (rfl | rfl) <;> exact harmless
  · rintro _ rfl
    exact harmless

theorem runs_open {statement} (harmless : Harmless statement) :
    Runs env call (fun later _ => ¬Ended later) past (query statement) :=
  conforms_mono (runs_query running harmless) fun _ _ ret => mt ret.1.ended running

theorem runs_plan (id : Int) :
    Runs env call (fun later result => Quiet past later ∧ ∀ plan, result = .ok plan →
      KnowsPlan env.subscriptions later plan) past
      (getSubscriptionPlanById env.subscriptions id) := by
  unfold Purchase.getSubscriptionPlanById
  split_ifs with invalid
  · exact ⟨quiet_refl past, fun plan same => by cases same⟩
  · split
    · next plan cached =>
        refine ⟨quiet_refl past, fun _ same => ?_⟩
        cases same
        exact ⟨id, not_le.mp invalid, .inl cached⟩
    · next missed =>
        refine conforms_bind (runs_query running trivial) ?_
          fun _ _ ret => ⟨ret.1, fun _ same => by cases same⟩
        rintro _ (_ | _) ⟨quiet, mem⟩
        · exact ⟨quiet, fun _ same => by cases same⟩
        · refine ⟨quiet, fun _ same => ?_⟩
          cases same
          exact ⟨id, not_le.mp invalid, .inr ⟨missed, mem⟩⟩

theorem runs_check (uncreated : ¬Created past) {userId : Int}
    (locked : fromBalance call → UserLocked past userId) (plan) :
    Runs env call (fun later result => Quiet past later ∧ (result = .ok () → 0 < plan.maxPurchasePerUser →
      CountedBelow later userId plan.id plan.maxPurchasePerUser)) past (checkPurchases userId plan) := by
  unfold Purchase.checkPurchases
  split_ifs with limited
  · refine ⟨⟨running, ?_, by simp⟩, fun answer => ?_⟩
    · rintro _ _ same
      cases same
      exact ⟨uncreated, locked⟩
    · have quiet : Quiet past (past ++ [⟨.count userId plan.id, answer⟩]) :=
        quiet_append (by simp [PurchaseStatement.ends]) (by simp)
      cases answer with
      | error => exact ⟨quiet, fun same => by cases same⟩
      | ok count =>
        change Runs env call _ _ (if _ then _ else _)
        split_ifs with full
        · exact ⟨quiet, fun same => by cases same⟩
        · exact ⟨quiet, fun _ _ => ⟨count, not_le.mp full, by simp⟩⟩
  · exact ⟨quiet_refl past, fun _ pos => absurd pos limited⟩

theorem runs_upgrade (userId : Int) (group : String) :
    Runs env call (fun later _ => Quiet past later) past (upgradeUserGroup userId group) := by
  unfold Purchase.upgradeUserGroup
  split_ifs
  · exact quiet_refl past
  · refine conforms_bind (runs_query running trivial) ?_ fun _ _ ret => ret.1
    rintro _ _ ⟨quiet, -⟩
    split_ifs
    · exact quiet
    · refine conforms_bind (runs_query (mt quiet.ended running) trivial) ?_ fun _ _ ret => quiet_trans quiet ret.1
      exact fun _ _ ret => quiet_trans quiet ret.1

theorem runs_create (uncreated : ¬Created past) {plan}
    (known : KnowsPlan env.subscriptions past plan) {userId : Int} (locked : fromBalance call → UserLocked past userId)
    (source) (dbNow : Int) :
    Runs env call (fun later _ => ¬Ended later) past (createUserSubscriptionFromPlanTx env userId
      plan source dbNow) := by
  unfold Purchase.createUserSubscriptionFromPlanTx
  split_ifs
  · exact running
  · exact running
  · refine conforms_bind (runs_check running uncreated locked plan) ?_ fun _ _ ret => mt ret.1.ended running
    rintro _ ⟨⟩ ⟨checked, counted⟩
    split
    · exact mt checked.ended running
    · refine conforms_bind (runs_upgrade (mt checked.ended running) userId _) ?_
        fun _ _ upgraded => mt (checked.ended ∘ upgraded.ended) running
      intro _ _ upgraded
      have quiet := quiet_trans checked upgraded
      refine ⟨⟨mt quiet.ended running, by simp, ?_⟩, fun _ => ?_⟩
      · rintro _ same
        cases same
        exact ⟨mt quiet.created uncreated, plan, knowsPlan_mono quiet.grows known, rfl,
          fun pos => countedBelow_mono upgraded.grows (counted rfl pos)⟩
      · rw [Script.Conforms, ended_append]
        exact not_or.mpr ⟨mt quiet.ended running, by simp [PurchaseStatement.ends]⟩

theorem runs_lockOrder (tradeNo : String) : Runs env call (fun later _ => Quiet past later) past
    (lockOrder tradeNo) := by
  have attempted : Runs env call (fun later _ => Quiet past later) past (query (.lockOrder tradeNo)).attempt :=
    conforms_andThen (runs_query running trivial) fun later _ ret => ret.1
  refine conforms_bind attempted ?_ fun _ _ quiet => quiet
  intro _ _ quiet
  split <;> exact quiet

theorem runs_topUp (order) (now : Int) :
    Runs env call (fun later _ => ¬Ended later) past (upsertSubscriptionTopUpTx order now) := by
  refine conforms_bind (runs_query running trivial) ?_ fun _ _ ret => mt ret.1.ended running
  rintro _ _ ⟨quiet, -⟩
  have still := mt quiet.ended running
  split
  · exact runs_open still trivial
  · split
    · exact still
    · exact runs_open still trivial

theorem runs_transaction {body} (runs : ∀ later, Quiet past later →
    Runs env call (fun last _ => ¬Ended last) later body) :
    Runs env call (fun _ _ => True) past (transaction body) := by
  refine conforms_bind (runs_query running trivial) ?_ fun _ _ _ => trivial
  rintro later ⟨⟩ ⟨quiet, -⟩
  refine conforms_andThen (runs later quiet) fun _ result still => ?_
  cases result with
  | ok _ | error reason => exact ⟨⟨still, by simp, by simp⟩, fun _ => trivial⟩

end

theorem runs_complete (tradeNo payload : String) (provider) (method : String) (now dbNow : Int)
    (unbalanced : ¬fromBalance call) :
    Runs env call (fun _ _ => True) [] (completeSubscriptionOrder env tradeNo payload provider method now dbNow) := by
  unfold Purchase.completeSubscriptionOrder
  split_ifs
  · trivial
  · refine runs_transaction (by simp [Ended]) fun past started => ?_
    have running : ¬Ended past := mt started.ended (by simp [Ended])
    refine conforms_bind (runs_lockOrder running tradeNo) ?_ fun _ _ quiet => mt quiet.ended running
    intro _ order locked
    have still := mt locked.ended running
    split_ifs
    · exact still
    · exact still
    · exact still
    · refine conforms_bind (runs_plan still order.planId) ?_ fun last _ ret => mt ret.1.ended still
      rintro last plan ⟨quiet, known⟩
      have uncreated : ¬Created last := mt (started.created ∘ locked.created ∘ quiet.created) (by simp [Created])
      refine conforms_bind (runs_create (mt quiet.ended still) uncreated (known plan rfl)
        (fun balance => absurd balance unbalanced) .order dbNow) ?_ fun _ _ created => created
      intro _ _ created
      refine conforms_bind (runs_topUp created order now) ?_ fun _ _ upserted => upserted
      intro _ _ upserted
      exact runs_open upserted trivial

theorem runs_adminBind (userId planId dbNow : Int) (unbalanced : ¬fromBalance call) :
    Runs env call (fun _ _ => True) [] (adminBindSubscription env userId planId dbNow) := by
  unfold adminBindSubscription
  split_ifs
  · trivial
  · refine conforms_bind (runs_plan (by simp [Ended]) planId) ?_ fun _ _ _ => trivial
    rintro past plan ⟨quiet, known⟩
    have running : ¬Ended past := mt quiet.ended (by simp [Ended])
    refine conforms_bind (runs_transaction running fun _ started => ?_) ?_ fun _ _ _ => trivial
    · exact runs_create (mt started.ended running) (mt (quiet.created ∘ started.created) (by simp [Created]))
        (knowsPlan_mono started.grows (known plan rfl)) (fun balance => absurd balance unbalanced) .admin dbNow
    · intro _ _ _
      split_ifs <;> trivial

theorem runs_pay (running : ¬Ended past) (userId requiredQuota : Int) :
    Runs env call (fun later result => Quiet past later ∧ (result = .ok () → UserLocked later userId)) past
      (payFromBalance userId requiredQuota) := by
  refine conforms_bind (runs_query running trivial) ?_ fun _ _ ret => ⟨ret.1, fun same => by cases same⟩
  rintro _ (_ | quota) ⟨quiet, mem⟩
  · exact ⟨quiet, fun same => by cases same⟩
  · change Runs env call _ _ (if _ then _ else _)
    split_ifs
    · exact ⟨quiet, fun same => by cases same⟩
    · exact conforms_mono (runs_query (mt quiet.ended running) trivial)
        fun _ _ ret => ⟨quiet_trans quiet ret.1, fun _ => ⟨quota, ret.1.grows mem⟩⟩
    · exact ⟨quiet, fun _ => ⟨quota, mem⟩⟩

theorem runs_withBalance (userId planId : Int) (tradeNo : String) (now dbNow : Int) :
    Runs env call (fun _ _ => True) [] (purchaseSubscriptionWithBalance env userId planId tradeNo now dbNow) := by
  unfold purchaseSubscriptionWithBalance
  split_ifs
  · trivial
  · refine runs_transaction (by simp [Ended]) fun past started => ?_
    have running : ¬Ended past := mt started.ended (by simp [Ended])
    refine conforms_bind (runs_plan running planId) ?_ fun _ _ ret => mt ret.1.ended running
    rintro _ plan ⟨quiet, known⟩
    have still := mt quiet.ended running
    split_ifs
    · exact still
    · exact still
    · exact still
    · split
      · exact still
      · next requiredQuota _ =>
        refine conforms_bind (runs_pay still userId requiredQuota) ?_ fun last _ ret => mt ret.1.ended still
        rintro last ⟨⟩ ⟨paid, locked⟩
        have uncreated : ¬Created last := mt (started.created ∘ quiet.created ∘ paid.created) (by simp [Created])
        refine conforms_bind (runs_create (mt paid.ended still) uncreated
          (knowsPlan_mono paid.grows (known plan rfl)) (fun _ => locked rfl) .balance dbNow) ?_
            fun _ _ created => created
        intro _ _ created
        exact runs_open created trivial

theorem runs_call (env call) : Runs env call (fun _ _ => True) [] (call.script env) := by
  cases call with
  | completeOrder tradeNo payload provider method now dbNow =>
      exact runs_complete tradeNo payload provider method now dbNow id
  | adminBind userId planId dbNow =>
    exact conforms_bind (runs_adminBind userId planId dbNow id) (fun _ _ _ => trivial) fun _ _ _ => trivial
  | withBalance userId planId tradeNo now dbNow => exact runs_withBalance userId planId tradeNo now dbNow

end Scripts

/-! ## The database -/

def sales (userId planId : Int) : PurchaseWrite → Nat
  | .createSubscription sub => if sub.userId = userId ∧ sub.planId = planId then 1 else 0
  | _ => 0

def sold (userId planId : Int) (writes : List PurchaseWrite) : Nat := (writes.map (sales userId planId)).sum

section Database
variable {planId : Int} {id : Nat}

theorem purchases_apply (store write) : (write.apply store).subscriptions.purchases userId planId =
      store.subscriptions.purchases userId planId + sales userId planId write := by
  cases write with
  | createSubscription sub =>
    change ((store.subscriptions.insertSubscription sub).subscriptions.rows.filter _).length = _
    rw [insertSubscription_rows, filter_append, length_append]
    by_cases ours : sub.userId = userId ∧ sub.planId = planId <;>
      simp [SubscriptionStore.purchases, sales, ours]
  | deductQuota => simp [PurchaseWrite.apply, sales]
  | updateGroup => simp [PurchaseWrite.apply, sales]
  | _ => rfl

theorem purchases_foldl (store writes) :
    (writes.foldl PurchaseWrite.apply store).subscriptions.purchases userId planId =
      store.subscriptions.purchases userId planId + sold userId planId writes := by
  induction writes generalizing store with
  | nil => rfl
  | cons _ _ ih => rw [foldl_cons, ih, purchases_apply, sold, sold, map_cons, sum_cons, add_assoc]

theorem plans_foldl (store : OrderStore) (writes : List PurchaseWrite) :
    (writes.foldl PurchaseWrite.apply store).subscriptions.plans = store.subscriptions.plans := by
  induction writes generalizing store with
  | nil => rfl
  | cons write _ ih =>
    rw [foldl_cons, ih]
    cases write with
    | deductQuota => simp [PurchaseWrite.apply]
    | updateGroup => simp [PurchaseWrite.apply]
    | _ => rfl

def KeepsLocks (db after : PurchaseDb) : Prop := ∀ row holder, db.locks row = some holder →
    after.locks row = some holder

theorem acquire_keeps {row} (acquired : db.acquire id row = some after) :
    after.store = db.store ∧ after.drafts = db.drafts ∧ KeepsLocks db after ∧
      ∀ held, row = some held → after.locks held = some id := by
  cases row with
  | none =>
    cases acquired
    exact ⟨rfl, rfl, fun _ _ held => held, fun _ same => by cases same⟩
  | some row =>
    simp only [acquire] at acquired
    split at acquired
    · next free =>
        cases acquired
        refine ⟨rfl, rfl, fun other holder held => ?_, fun held same => ?_⟩
        · have ne : other ≠ row := by
            rintro rfl
            rw [free] at held
            cases held
          exact (update_of_ne ne _ _).trans held
        · cases same
          exact update_self ..
    · next holder held =>
        split_ifs at acquired with own
        cases acquired
        subst own
        exact ⟨rfl, rfl, fun _ _ kept => kept, fun _ same => by cases same; exact held⟩

inductive PurchaseEffect (db : PurchaseDb) (id : Nat) : PurchaseStatement → PurchaseDb → Prop
  | reads {statement after} (stays : ¬statement.ends) (store : after.store = db.store)
      (drafts : after.drafts = db.drafts)
      (locks : KeepsLocks db after) : PurchaseEffect db id statement after
  | writes {after : PurchaseDb} (write : PurchaseWrite) (store : after.store = db.store)
      (drafts : after.drafts = update db.drafts id (db.drafts id ++ [write])) (locks : KeepsLocks db after) :
      PurchaseEffect db id (.write write) after
  | commits : PurchaseEffect db id .commit ({ db with store := db.view id }.close id)
  | closes {statement} (ends : statement.ends) : PurchaseEffect db id statement (db.close id)

theorem exec_effect {statement fault answer}
    (ran : exec id statement fault db = some (answer, after)) : PurchaseEffect db id statement after := by
  have same {other : PurchaseStatement} (stays : ¬other.ends) : PurchaseEffect db id other db :=
    .reads stays rfl rfl fun _ _ held => held
  cases fault with
  | some =>
    simp only [exec] at ran
    split_ifs at ran with ends
    · cases ran
      exact .closes ends
    · cases ran
      exact same ends
  | none =>
    change db.answer id statement = some (answer, after) at ran
    cases statement with
    | lockOrder row | lockUser row =>
      obtain ⟨_, acquired, ret⟩ := map_eq_some_iff.mp ran
      cases ret
      obtain ⟨store, drafts, locks, -⟩ := acquire_keeps acquired
      exact .reads (by simp [PurchaseStatement.ends]) store drafts locks
    | write write =>
      simp only [PurchaseDb.answer] at ran
      split at ran
      · cases ran
        exact same (by simp [PurchaseStatement.ends])
      · obtain ⟨_, acquired, ret⟩ := map_eq_some_iff.mp ran
        cases ret
        obtain ⟨store, drafts, locks, -⟩ := acquire_keeps acquired
        exact .writes write store (by simp [draft, drafts]) locks
    | commit =>
      cases ran
      exact .commits
    | rollback =>
      cases ran
      exact .closes (.inr rfl)
    | _ =>
      cases ran
      exact same (by simp [PurchaseStatement.ends])

theorem exec_lockUser {fault} {quota : Int} (ran : exec id (.lockUser userId) fault db =
    some (.ok (some quota), after)) :
    after.locks (.user userId) = some id := by
  cases fault with
  | some => cases ran
  | none =>
    obtain ⟨_, acquired, ret⟩ := map_eq_some_iff.mp ran
    obtain ⟨found, rfl⟩ := Prod.mk.inj ret
    refine (acquire_keeps acquired).2.2.2 (.user userId) ?_
    rw [Except.ok.inj found]
    rfl

theorem exec_count {fault} {count : Nat} (ran : exec id (.count userId planId) fault db = some (.ok count, after)) :
    count = db.store.subscriptions.purchases userId planId + sold userId planId (db.drafts id) := by
  cases fault with
  | some => cases ran
  | none =>
    cases ran
    exact purchases_foldl db.store (db.drafts id)

theorem exec_findPlan {fault} {planId : Int} {found} (ran : exec id (.findPlan planId) fault db =
    some (.ok found, after)) :
    found = db.store.subscriptions.plans.find? planId := by
  cases fault with
  | some => cases ran
  | none =>
    cases ran
    exact congrArg (Table.find? · planId) (plans_foldl db.store (db.drafts id))

section
variable {statement} (effect : PurchaseEffect db id statement after)
include effect

theorem effect_store : after.store = db.store ∨ (statement = .commit ∧ after.store = db.view id) := by
  cases effect with
  | reads _ store => exact .inl store
  | writes _ store => exact .inl store
  | commits => exact .inr ⟨rfl, rfl⟩
  | closes => exact .inl rfl

theorem effect_locks {row} {holder : Nat} (kept : ¬statement.ends ∨ holder ≠ id) (held : db.locks row = some holder) :
    after.locks row = some holder := by
  have closed (ends : statement.ends) (start : PurchaseDb) (same : start.locks = db.locks) :
    (start.close id).locks row = some holder := by
    have ne : holder ≠ id := kept.resolve_left (not_not.mpr ends)
    simp [close, same, held, ne]
  cases effect with
  | reads _ _ _ locks => exact locks row holder held
  | writes _ _ _ locks => exact locks row holder held
  | commits => exact closed (.inl rfl) _ rfl
  | closes ends => exact closed ends db rfl

theorem effect_others {other : Nat} (apart : other ≠ id) : after.drafts other = db.drafts other := by
  cases effect with
  | reads _ _ drafts => rw [drafts]
  | writes _ _ drafts => rw [drafts, update_of_ne apart]
  | commits => exact update_of_ne apart _ _
  | closes => exact update_of_ne apart _ _

end

end Database

/-! ## The invariant -/

structure ThreadKnown (plans : Table SubscriptionPlan.id) (db : PurchaseDb) (id : Nat) (call : PurchaseCall)
    (past : PurchasePast) : Prop where
  plans : ∀ planId found, ⟨.findPlan planId, .ok found⟩ ∈ past → found = plans.find? planId
  locked : fromBalance call → ∀ userId planId answer, ⟨.count userId planId, answer⟩ ∈ past → UserLocked past userId
  held : ¬Ended past → ∀ userId, UserLocked past userId → db.locks (.user userId) = some id

structure RaceLimited (env : OrderEnv) (plans : Table SubscriptionPlan.id) (userId : Int) (plan : SubscriptionPlan)
    (race : PurchaseRace) : Prop where
  conforming : race.Conforming (MayRun env.subscriptions) fun _ _ _ => True
  planned : race.shared.store.subscriptions.plans = plans
  threads : ∀ id thread, race.threads id = some thread → ThreadKnown plans race.shared id thread.call thread.past
  bound : (race.shared.store.subscriptions.purchases userId plan.id : Int) ≤ plan.maxPurchasePerUser
  drafts : ∀ id, sold userId plan.id (race.shared.drafts id) = 0 ∨ (sold userId plan.id (race.shared.drafts id) = 1 ∧
    ∃ thread, race.threads id = some thread ∧ ¬Ended thread.past ∧ Created thread.past ∧
      CountedBelow thread.past userId plan.id plan.maxPurchasePerUser)
  room : ∀ id thread, race.threads id = some thread → ¬Ended thread.past →
    CountedBelow thread.past userId plan.id plan.maxPurchasePerUser →
      (race.shared.store.subscriptions.purchases userId plan.id : Int) < plan.maxPurchasePerUser
  single : ∀ id other thread thread', race.threads id = some thread → race.threads other = some thread' →
    Counting thread.past userId plan.id → Counting thread'.past userId plan.id → id = other

def Alone (userId planId : Int) (race : PurchaseRace) : PurchaseEvent → Prop
  | .call _ _ => True
  | .advance id _ => ∀ call past next, race.threads id = some ⟨call, past, .call (.count userId planId) next⟩ →
      ∀ other thread, other ≠ id → race.threads other = some thread → Counting thread.past userId planId →
        fromBalance call ∧ fromBalance thread.call

section Invariant
variable {plans : Table SubscriptionPlan.id} {plan : SubscriptionPlan} {race : PurchaseRace}
    {id : Nat} {past : PurchasePast}
    {statement : PurchaseStatement} {answer : Except String statement.Answer} {fault : Option String}

theorem threadKnown_own (known : ThreadKnown plans db id call past) (may : MayRun env.subscriptions call past statement)
    (same : db.store.subscriptions.plans = plans) (ran : exec id statement fault db = some (answer, after)) :
    ThreadKnown plans after id call (past ++ [⟨statement, answer⟩]) where
  plans planId found mem := by
    rcases mem_past mem with old | new
    · exact known.plans planId found old
    · cases new
      rw [exec_findPlan ran, same]
  locked balance buyer planId count mem := by
    rcases mem_past mem with old | new
    · exact userLocked_mono (subset_append_left _ _) (known.locked balance buyer planId count old)
    · cases new
      exact userLocked_mono (subset_append_left _ _) ((may.2.1 buyer planId rfl).2 balance)
  held running buyer locked := by
    have stays : ¬statement.ends := fun ends => running (ended_append.mpr (.inr ends))
    obtain ⟨quota, mem⟩ := locked
    rcases mem_past mem with old | new
    · exact effect_locks (exec_effect ran) (.inl stays) (known.held may.1 buyer ⟨quota, old⟩)
    · cases new
      exact exec_lockUser ran

theorem counting_of_below {limit planId : Int} (running : ¬Ended past) (below : CountedBelow past userId planId limit) :
    Counting past userId planId := by
  obtain ⟨count, -, mem⟩ := below
  exact ⟨running, count, mem⟩

theorem counting_append {planId : Int} (counting : Counting (past ++ [⟨statement, answer⟩]) userId planId) :
    Counting past userId planId ∨ (statement = .count userId planId ∧ ¬Ended past) := by
  obtain ⟨running, count, mem⟩ := counting
  have before : ¬Ended past := fun ended => running (ended_append.mpr (.inl ended))
  rcases mem_past mem with old | new
  · exact .inl ⟨before, count, old⟩
  · cases new
    exact .inr ⟨rfl, before⟩

theorem known_plan (found : planOf env.subscriptions db.store.subscriptions plan.id = some plan)
    (cached : ∀ planId other, env.subscriptions.planCache planId = some other → other.id = planId)
    (known : ThreadKnown db.store.subscriptions.plans db id call past) {other}
    (knows : KnowsPlan env.subscriptions past other) (same : other.id = plan.id) : other = plan := by
  obtain ⟨planId, pos, source⟩ := knows
  have looked : planOf env.subscriptions db.store.subscriptions planId = some other := by
    unfold planOf
    rw [if_neg (not_le.mpr pos)]
    rcases source with hit | ⟨missed, mem⟩
    · rw [hit, some_or]
    · rw [missed, none_or, ← known.plans planId _ mem]
  have identity : other.id = planId := by
    rcases source with hit | ⟨-, mem⟩
    · exact cached planId other hit
    · exact (Table.find?_eq_some.mp (known.plans planId _ mem).symm).2
  rw [← identity, same] at looked
  exact mem_unique looked found

/-! One statement of a thread. -/

section Advance
variable {next : Except String statement.Answer → PurchaseScript Unit}

variable (limited : RaceLimited env plans userId plan race)

include limited

theorem planned_advance (effect : PurchaseEffect race.shared id statement after) :
    after.store.subscriptions.plans = plans := by
  rcases effect_store effect with same | ⟨-, committed⟩
  · rw [same, limited.planned]
  · rw [committed, view, plans_foldl, limited.planned]

theorem bound_advance (effect : PurchaseEffect race.shared id statement after) :
    (after.store.subscriptions.purchases userId plan.id : Int) ≤ plan.maxPurchasePerUser := by
  rcases effect_store effect with same | ⟨-, committed⟩
  · rw [same]
    exact limited.bound
  · rw [committed, view, purchases_foldl]
    rcases limited.drafts id with none | ⟨one, found, present, running, -, below⟩
    · rw [none, add_zero]
      exact limited.bound
    · have room := limited.room id found present running below
      rw [one]
      omega

theorem drafts_advance (found : planOf env.subscriptions race.shared.store.subscriptions plan.id = some plan)
    (cached : ∀ planId other, env.subscriptions.planCache planId = some other → other.id = planId)
    (pos : 0 < plan.maxPurchasePerUser)
    (thread : race.threads id = some ⟨call, past, .call statement next⟩)
    (may : MayRun env.subscriptions call past statement)
    (answer) (effect : PurchaseEffect race.shared id statement after) :
    sold userId plan.id (after.drafts id) = 0 ∨ (sold userId plan.id (after.drafts id) = 1 ∧
      ¬Ended (past ++ [⟨statement, answer⟩]) ∧ Created (past ++ [⟨statement, answer⟩]) ∧
      CountedBelow (past ++ [⟨statement, answer⟩]) userId plan.id plan.maxPurchasePerUser) := by
  have kept (stays : ¬statement.ends) (drafts : sold userId plan.id (after.drafts id) =
    sold userId plan.id (race.shared.drafts id)) :
      sold userId plan.id (after.drafts id) = 0 ∨ (sold userId plan.id (after.drafts id) = 1 ∧
        ¬Ended (past ++ [⟨statement, answer⟩]) ∧ Created (past ++ [⟨statement, answer⟩]) ∧
        CountedBelow (past ++ [⟨statement, answer⟩]) userId plan.id plan.maxPurchasePerUser) := by
    rw [drafts]
    rcases limited.drafts id with none | ⟨one, own, present, running, created, below⟩
    · exact .inl none
    · obtain rfl := mem_unique present thread
      exact .inr ⟨one, fun ended => (ended_append.mp ended).elim running stays, created_append.mpr (.inl created),
        countedBelow_mono (subset_append_left _ _) below⟩
  cases effect with
  | reads stays _ drafts => exact kept stays (by rw [drafts])
  | commits | closes _ => exact .inl (by simp [close, sold])
  | writes write _ drafts =>
    have total : sold userId plan.id (after.drafts id) =
      sold userId plan.id (race.shared.drafts id) + sales userId plan.id write := by
      simp [drafts, sold]
    have stays : ¬(PurchaseStatement.write write).ends := by simp [PurchaseStatement.ends]
    by_cases unsold : sales userId plan.id write = 0
    · exact kept stays (by rw [total, unsold, add_zero])
    · cases write with
      | createSubscription sub =>
        by_cases ours : sub.userId = userId ∧ sub.planId = plan.id
        · obtain ⟨uncreated, other, knows, same, counted⟩ := may.2.2 sub rfl
          have known : ThreadKnown race.shared.store.subscriptions.plans race.shared id call past := by
            rw [limited.planned]
            exact limited.threads id _ thread
          obtain rfl := known_plan found cached known knows (same.symm.trans ours.2)
          have fresh : sold userId other.id (race.shared.drafts id) = 0 := by
            rcases limited.drafts id with none | ⟨-, own, present, -, created, -⟩
            · exact none
            · obtain rfl := mem_unique present thread
              exact absurd created uncreated
          refine .inr ⟨by rw [total, fresh, sales, if_pos ours], fun ended => (ended_append.mp ended).elim may.1 stays,
            created_append.mpr (.inr ⟨sub, rfl⟩), countedBelow_mono (subset_append_left _ _) ?_⟩
          rw [← ours.1]
          exact counted pos
        · exact absurd (by rw [sales, if_neg ours]) unsold
      | _ => exact absurd rfl unsold

section
variable (thread : race.threads id = some ⟨call, past, .call statement next⟩)
include thread

theorem room_advance (ran : exec id statement fault race.shared = some (answer, after)) {other : Nat} {acted}
    (present : update race.threads id (some ⟨call, past ++ [⟨statement, answer⟩], next answer⟩) other = some acted)
    (running : ¬Ended acted.past) (below : CountedBelow acted.past userId plan.id plan.maxPurchasePerUser) :
    (after.store.subscriptions.purchases userId plan.id : Int) < plan.maxPurchasePerUser := by
  have effect := exec_effect ran
  rcases update_some present with ⟨rfl, rfl⟩ | ⟨apart, before⟩
  · have stays : ¬statement.ends := fun ends => running (ended_append.mpr (.inr ends))
    have still : ¬Ended past := fun ended => running (ended_append.mpr (.inl ended))
    have same : after.store = race.shared.store := by
      rcases effect_store effect with same | ⟨rfl, -⟩
      · exact same
      · exact absurd (.inl rfl) stays
    rw [same]
    obtain ⟨count, few, mem⟩ := below
    rcases mem_past mem with old | new
    · exact limited.room other _ thread still ⟨count, few, old⟩
    · cases new
      have counted := exec_count ran
      omega
  · have room := limited.room other acted before running below
    rcases effect_store effect with same | ⟨-, committed⟩
    · rw [same]
      exact room
    · rw [committed, view, purchases_foldl]
      rcases limited.drafts id with none | ⟨-, own, held, still, -, counted⟩
      · rw [none, add_zero]
        exact room
      · exact absurd (limited.single other id acted own before held (counting_of_below running below)
          (counting_of_below still counted)) apart

theorem single_counts (may : MayRun env.subscriptions call past statement)
    (counts : statement = .count userId plan.id) (alone : Alone userId plan.id race
    (.advance id fault)) {other : Nat} {counted}
    (present : race.threads other = some counted) (counting : Counting counted.past userId plan.id) : other = id := by
  by_contra apart
  subst counts
  obtain ⟨ours, theirs⟩ := alone call past next thread other counted apart present counting
  have known := limited.threads other counted present
  obtain ⟨running, _, mem⟩ := counting
  have held := known.held running userId (known.locked theirs userId plan.id _ mem)
  have own := (limited.threads id _ thread).held may.1 userId ((may.2.1 userId plan.id rfl).2 ours)
  exact apart (mem_unique held own)

theorem single_advance (may : MayRun env.subscriptions call past statement)
    (alone : Alone userId plan.id race (.advance id fault)) {first second : Nat} {one two}
    (found : update race.threads id (some ⟨call, past ++ [⟨statement, answer⟩], next answer⟩) first = some one)
    (found' : update race.threads id (some ⟨call, past ++ [⟨statement, answer⟩], next answer⟩) second = some two)
    (counting : Counting one.past userId plan.id) (counting' : Counting two.past userId plan.id) : first = second := by
  have own (other : Nat) (counted : Thread PurchaseCall PurchaseStatement PurchaseStatement.Answer String Unit)
      (present : race.threads other = some counted) (theirs : Counting counted.past userId plan.id)
      (ours : Counting (past ++ [⟨statement, answer⟩]) userId plan.id) : other = id := by
    rcases counting_append ours with before | ⟨counts, -⟩
    · exact limited.single other id counted _ present thread theirs before
    · exact single_counts limited thread may counts alone present theirs
  rcases update_some found with ⟨rfl, rfl⟩ | ⟨-, before⟩
  · rcases update_some found' with ⟨rfl, rfl⟩ | ⟨-, before'⟩
    · rfl
    · exact (own second two before' counting' counting).symm
  · rcases update_some found' with ⟨rfl, rfl⟩ | ⟨-, before'⟩
    · exact own first one before counting counting'
    · exact limited.single first second one two before before' counting counting'

end

theorem raceLimited_advance (found : planOf env.subscriptions race.shared.store.subscriptions plan.id = some plan)
    (cached : ∀ planId other, env.subscriptions.planCache planId = some other → other.id = planId)
    (pos : 0 < plan.maxPurchasePerUser) (alone : Alone userId plan.id race (.advance id fault)) :
    RaceLimited env plans userId plan (race.advance exec id fault) := by
  have conforming := Pool.conforming_advance limited.conforming exec id fault
  rcases Pool.advance_cases exec race id fault with same | ⟨call, past, statement, next, answer,
    after, thread, ran, advanced⟩
  · rwa [same]
  · have effect := exec_effect ran
    have may : MayRun env.subscriptions call past statement := (limited.conforming id _ thread).1
    rw [advanced] at conforming ⊢
    refine ⟨conforming, planned_advance limited effect, ?_, bound_advance limited effect, ?_, ?_, ?_⟩
    · intro other acted present
      rcases update_some present with ⟨rfl, rfl⟩ | ⟨apart, before⟩
      · exact threadKnown_own (limited.threads other _ thread) may limited.planned ran
      · have known := limited.threads other acted before
        exact ⟨known.plans, known.locked, fun running buyer locked =>
          effect_locks effect (.inr apart) (known.held running buyer locked)⟩
    · intro other
      rcases eq_or_ne other id with rfl | apart
      · rcases drafts_advance limited found cached pos thread may answer effect with none | ⟨one, facts⟩
        · exact .inl none
        · exact .inr ⟨one, _, update_self .., facts⟩
      · simp only [effect_others effect apart, update_of_ne apart]
        exact limited.drafts other
    · exact fun _ _ present running below => room_advance limited thread ran present running below
    · exact fun _ _ _ _ present present' counting counting' =>
        single_advance limited thread may alone present present' counting counting'

end Advance

theorem raceLimited_call (limited : RaceLimited env plans userId plan race) (id : Nat) (call) :
    RaceLimited env plans userId plan (race.spawn id call (call.script env)) := by
  have conforming := Pool.conforming_spawn limited.conforming (runs_call env call) id
  rcases Pool.spawn_cases race id call (call.script env) with same | ⟨free, spawned⟩
  · rwa [same]
  · rw [spawned] at conforming ⊢
    refine ⟨conforming, limited.planned, ?_, limited.bound, ?_, ?_, ?_⟩
    · intro other thread present
      rcases update_some present with ⟨rfl, rfl⟩ | ⟨-, before⟩
      · exact ⟨by simp, by simp, by simp [UserLocked]⟩
      · exact limited.threads other thread before
    · intro other
      rcases limited.drafts other with none | ⟨one, thread, present, facts⟩
      · exact .inl none
      · have apart : other ≠ id := by
          rintro rfl
          rw [free] at present
          cases present
        exact .inr ⟨one, thread, (update_of_ne apart _ _).trans present, facts⟩
    · intro other thread present running below
      rcases update_some present with ⟨rfl, rfl⟩ | ⟨-, before⟩
      · obtain ⟨_, -, mem⟩ := below
        cases mem
      · exact limited.room other thread before running below
    · intro first second one two present present' counting counting'
      rcases update_some present with ⟨rfl, rfl⟩ | ⟨-, before⟩
      · obtain ⟨-, _, mem⟩ := counting
        cases mem
      · rcases update_some present' with ⟨rfl, rfl⟩ | ⟨-, before'⟩
        · obtain ⟨-, _, mem⟩ := counting'
          cases mem
        · exact limited.single first second one two before before' counting counting'

end Invariant

theorem raceLimited_start (env) {store} {userId : Int} {plan}
    (within : (store.subscriptions.purchases userId plan.id : Int) ≤ plan.maxPurchasePerUser) :
    RaceLimited env store.subscriptions.plans userId plan (start store) where
  conforming := Pool.conforming_start _
  planned := rfl
  threads id thread present := by cases present
  bound := within
  drafts id := .inl rfl
  room id thread present := by cases present
  single id other thread thread' present := by cases present

theorem purchase_limit (env : OrderEnv) (store : OrderStore) (plan : SubscriptionPlan) (userId : Int)
    (found : planOf env.subscriptions store.subscriptions plan.id = some plan)
    (cached : ∀ planId other, env.subscriptions.planCache planId = some other → other.id = planId)
    (positive : 0 < plan.maxPurchasePerUser)
    (within : (store.subscriptions.purchases userId plan.id : Int) ≤ plan.maxPurchasePerUser)
    (events : List PurchaseEvent)
    (alone : Along (step env) (Alone userId plan.id) (start store) events) :
    ((run (step env) (start store) events).shared.store.subscriptions.purchases userId plan.id : Int) ≤
      plan.maxPurchasePerUser := by
  have preserved (race : PurchaseRace) (event : PurchaseEvent)
    (limited : RaceLimited env store.subscriptions.plans userId plan race)
      (careful : Alone userId plan.id race event) :
      RaceLimited env store.subscriptions.plans userId plan (race.step env event) := by
    cases event with
    | call id call => exact raceLimited_call limited id call
    | advance =>
      refine raceLimited_advance limited ?_ cached positive careful
      unfold planOf at found ⊢
      rwa [limited.planned]
  exact (run_invariant preserved (raceLimited_start env within) alone).bound

theorem alone_of_balance {env} {userId planId : Int} {events}
    (balance : ∀ id call, .call id call ∈ events → fromBalance call) {race}
    (threads : ∀ id thread, race.threads id = some thread → fromBalance thread.call) :
    Along (step env) (Alone userId planId) race events := by
  induction events generalizing race with
  | nil => trivial
  | cons event _ ih =>
    have later := fun id call mem => balance id call (mem_cons_of_mem event mem)
    cases event with
    | call id call =>
      refine ⟨trivial, ih later ?_⟩
      rcases Pool.spawn_cases race id call (call.script env) with same | ⟨-, spawned⟩
      · rwa [step, same]
      · rw [step, spawned]
        intro other thread present
        rcases update_some present with ⟨rfl, rfl⟩ | ⟨-, before⟩
        · exact balance other call (mem_cons_self ..)
        · exact threads other thread before
    | advance id fault =>
      refine ⟨fun call past next thread other counted _ present _ =>
        ⟨threads id _ thread, threads other counted present⟩, ih later ?_⟩
      rcases Pool.advance_cases exec race id fault with same | ⟨call, past, statement, next, answer,
        after, thread, -, advanced⟩
      · rwa [step, same]
      · rw [step, advanced]
        intro other acted present
        rcases update_some present with ⟨rfl, rfl⟩ | ⟨-, before⟩
        · exact threads other ⟨call, past, .call statement next⟩ thread
        · exact threads other acted before

def limitedPlan : SubscriptionPlan := { dayPlan with maxPurchasePerUser := 1 }

def limitedStore : OrderStore := subscriberStore ⟨[limitedPlan], by decide⟩

def balanceEvents : List PurchaseEvent :=
  [.call 0 (.withBalance 1 1 "a" 0 0), .call 1 (.withBalance 1 1 "b" 0 0)] ++
    (replicate 8 [.advance 0 none, .advance 1 none]).flatten

theorem purchase_limit_balance : limitedPlan.maxPurchasePerUser = 1 ∧
    ((run (step orderEnv) (start limitedStore) balanceEvents).shared.store.subscriptions.purchases 1
      limitedPlan.id : Int) ≤ limitedPlan.maxPurchasePerUser := by
  refine ⟨rfl, purchase_limit orderEnv limitedStore limitedPlan 1 rfl (fun _ _ hit => by cases hit) (by decide)
    (by decide) balanceEvents (alone_of_balance ?_ fun id _ present => by cases present)⟩
  intro id call mem
  obtain ⟨-, rfl⟩ | ⟨-, rfl⟩ : id = 0 ∧ call = .withBalance 1 1 "a" 0 0 ∨ id = 1 ∧ call = .withBalance 1 1 "b" 0 0 := by
    simpa [balanceEvents] using mem
  all_goals trivial

def bindingEvents : List PurchaseEvent :=
  [.call 0 (.adminBind 1 1 0), .call 1 (.adminBind 1 1 0)] ++
    (replicate 5 [.advance 0 none, .advance 1 none]).flatten

theorem bindings_exceed_limit : planOf orderEnv.subscriptions limitedStore.subscriptions
    limitedPlan.id = some limitedPlan ∧
    limitedPlan.maxPurchasePerUser = 1 ∧ limitedStore.subscriptions.purchases 1 limitedPlan.id = 0 ∧
    (run (step orderEnv) (start limitedStore) bindingEvents).shared.store.subscriptions.purchases 1
      limitedPlan.id = 2 := by
  refine ⟨rfl, rfl, rfl, ?_⟩
  decide +kernel

end NewApi.Proof
