import NewApi.Model.OrderRun
import NewApi.Proof.PreConsume

/-! # What a call does to the orders -/

namespace NewApi.Proof
open Library Common Model OrderStore Db
variable {env : OrderEnv} {faults : Faults OrderStatement String} {now : Int}

def Creditable (env : OrderEnv) (store : OrderStore) (call : OrderCall) : Prop :=
  ∀ topUp, store.topUps.find? call.tradeNo = some topUp → topUp.status = .pending →
    match call with
    | .recharge _ _ => (store.users topUp.userId).isSome ∧ 1 ≤ stripeQuota env topUp
    | .rechargeCreem _ _ => (store.users topUp.userId).isSome ∧ 1 ≤ topUp.amount
    | .rechargeWaffo _ | .rechargeWaffoPancake _ | .manualCompleteTopUp _ => (store.users topUp.userId).isSome
    | _ => True

inductive Upserted (order : SubscriptionOrder) (topUps : Table TopUp.tradeNo) : Table TopUp.tradeNo → Prop
  | created (now : Int) (absent : topUps.find? order.tradeNo = none) :
      Upserted order topUps (topUps.insert (shadowTopUp order now))
  | updated (topUp row : TopUp) (found : topUps.find? order.tradeNo = some topUp) :
      Upserted order topUps (topUps.save row)

def paidStore (store : OrderStore) (topUp : TopUp) (now : Int) (quota : Int → Int)
    (columns : User → User) : OrderStore :=
  (store.saveTopUp { topUp with completeTime := now, status := .success }).updateUser topUp.userId quota columns

theorem le_foldl_max (ids : List Int) (start : Int) : start ≤ ids.foldl max start ∧
    ∀ id ∈ ids, id ≤ ids.foldl max start := by
  induction ids generalizing start with
  | nil => simp
  | cons id _ ih =>
    obtain ⟨least, others⟩ := ih (max start id)
    refine ⟨(le_max_left _ _).trans least, fun other mem => ?_⟩
    rcases List.mem_cons.mp mem with rfl | among
    · exact (le_max_right _ _).trans least
    · exact others other among

theorem lt_nextId {subscriptions : SubscriptionStore} {sub : UserSubscription}
    (mem : sub ∈ subscriptions.subscriptions.rows) : sub.id < subscriptions.nextId :=
  Int.lt_add_one_iff.mpr ((le_foldl_max _ 0).2 sub.id (List.mem_map_of_mem mem))

theorem insertSubscription_rows (subscriptions : SubscriptionStore) (sub : UserSubscription) :
    (subscriptions.insertSubscription sub).subscriptions.rows =
      subscriptions.subscriptions.rows ++ [{ sub with id := subscriptions.nextId }] := by
  apply Table.insert_rows
  rw [Table.find?_eq_none]
  intro _ mem same
  exact absurd (lt_nextId mem) (by simp [same])

def groupName (store : OrderStore) (userId : Int) : String := ((store.users userId).map User.group).getD ""

section Fields
variable (store : OrderStore) (userId : Int) (quota : Int → Int) (columns : User → User)

@[simp] theorem updateUser_topUps : (store.updateUser userId quota columns).topUps = store.topUps := by
  unfold updateUser
  cases store.users userId <;> rfl

@[simp] theorem updateUser_orders : (store.updateUser userId quota columns).orders = store.orders := by
  unfold updateUser
  cases store.users userId <;> rfl

@[simp] theorem updateUser_subscriptions : (store.updateUser userId quota columns).subscriptions =
    store.subscriptions := by
  unfold updateUser
  cases store.users userId <;> rfl

theorem updateUser_columns : store.updateUser userId id columns =
    { store with users := Function.update store.users userId ((store.users userId).map columns) } := by
  unfold updateUser
  cases found : store.users userId with
  | none =>
    have same : Function.update store.users userId none = store.users := by
      rw [← found]
      exact Function.update_eq_self userId store.users
    simp only [Option.map_none, same]
  | some =>
    simp only [id, Function.update_eq_self]
    rfl

end Fields

/-! An environment in UTC with nothing cached, a store with one user, and a plan for a day. -/

def floorColumn : FloatColumn where
  store value := ⌊value⌋
  exact value := Int.floor_intCast value
  mono less := Int.floor_le_floor less

def orderEnv : OrderEnv where
  quotaPerUnit := 500000
  column := floorColumn
  subscriptions := ⟨utc, fun _ => none, fun _ => none, 10⟩

def subscriberStore (plans : Table SubscriptionPlan.id) : OrderStore where
  accounts := ⟨fun _ => 0, fun _ => 0, fun _ => ⟨0, 0⟩, fun _ => 0, fun _ => none⟩
  users := fun id => if id = 1 then some ⟨"", "", "default"⟩ else none
  subscriptions := ⟨plans, Table.empty, Table.empty⟩
  topUps := Table.empty
  orders := Table.empty

def dayPlan : SubscriptionPlan where
  id := 1
  title := "day"
  durationUnit := "day"
  totalAmount := 10

def dayStore : OrderStore := subscriberStore ⟨[dayPlan], by decide⟩

inductive OrderEffect (env : OrderEnv) (call : OrderCall) (store : OrderStore) : OrderStore → Prop
  | nothing : OrderEffect env call store store
  | paid (topUp : TopUp) (now : Int) (quota : Int → Int) (columns : User → User)
      (found : store.topUps.find? call.tradeNo = some topUp) (pending : topUp.status = .pending)
      (own : ∀ gateway, call.gateway = some gateway → topUp.paymentProvider = gateway)
        (raises : Creditable env store call →
        (store.users topUp.userId).isSome ∧ ∀ balance, balance < quota balance) :
      OrderEffect env call store (paidStore store topUp now quota columns)
  | closed (topUp : TopUp) (target : TopUpStatus) (found : store.topUps.find? call.tradeNo = some topUp)
      (pending : topUp.status = .pending) (own : ∀ gateway, call.gateway = some gateway →
        topUp.paymentProvider = gateway)
      (closes : target = .failed ∨ target = .expired) :
      OrderEffect env call store (store.saveTopUp { topUp with status := target })
  | subscribed (order : SubscriptionOrder) (now : Int) (providerPayload actualPaymentMethod : String)
      (users : Int → Option User) (sub : UserSubscription) (topUps : Table TopUp.tradeNo)
      (found : store.orders.find? call.tradeNo = some order) (pending : order.status = .pending)
      (own : ∀ gateway, call.gateway = some gateway → order.paymentProvider = gateway)
      (upserted : Upserted order store.topUps topUps) : OrderEffect env call store
        { accounts := store.accounts
          users := users
          subscriptions := store.subscriptions.insertSubscription sub
          topUps := topUps
          orders := store.orders.save (completedOrder order providerPayload actualPaymentMethod now) }
  | expired (order : SubscriptionOrder) (now : Int) (found : store.orders.find? call.tradeNo = some order)
      (pending : order.status = .pending) (own : ∀ gateway, call.gateway = some gateway →
        order.paymentProvider = gateway) :
      OrderEffect env call store (store.saveOrder { order with status := .expired, completeTime := now })

section Statements
variable {store after : OrderStore}

variable {reason upgradeGroup prevGroup : String} {topUp : TopUp} {value : Unit}

theorem lookup_ok {α : Type} {label read} {row : α}
    {next} (found : ∀ row, next (.ok (some row)) = pure row) (missing : next (.ok none) = fail reason)
    (failed : ∀ error, next (.error error) = fail reason)
    (ran : (attempt (query label read) >>= next) faults store = (.ok row, after)) :
    after = store ∧ read store = some row := by
  rcases attempt_query_bind ran with ret | ⟨_, ret⟩
  · cases answer : read store with
    | none =>
      rw [answer, missing] at ret
      cases (fail_eq.mp ret).1
    | some =>
      rw [answer, found] at ret
      obtain ⟨rfl, rfl⟩ := pure_eq_ok.mp ret
      exact ⟨rfl, rfl⟩
  · rw [failed] at ret
    cases (fail_eq.mp ret).1

theorem lockTopUp_ok {tradeNo} (ran : lockTopUp tradeNo reason faults store = (.ok topUp, after)) :
    after = store ∧ store.topUps.find? tradeNo = some topUp :=
  lookup_ok (fun _ => rfl) rfl (fun _ => rfl) ran

theorem lockOrder_ok {tradeNo order} (ran : lockOrder tradeNo faults store = (.ok order, after)) :
    after = store ∧ store.orders.find? tradeNo = some order :=
  lookup_ok (fun _ => rfl) rfl (fun _ => rfl) ran

theorem payTopUp_ok {now quota columns} (ran : payTopUp topUp now quota columns faults store = (.ok value, after)) :
    after = paidStore store topUp now quota columns := by
  obtain ⟨-, credited⟩ := execute_bind_eq_ok.mp ran
  exact (execute_eq_ok.mp credited).2

theorem concealError_store (body : OrderDb Unit) : (concealError body faults store).2 = (body faults store).2 := by
  unfold concealError
  rw [bind_apply]
  unfold attempt
  rcases body faults store with ⟨result, _⟩
  cases result with
  | ok => rfl
  | error halt => cases halt <;> rfl

theorem creemColumns_readOnly (userId : Int) (customerEmail : String) :
    Db.ReadOnly (creemColumns userId customerEmail) := by
  refine readOnly_ite (readOnly_pure _) (readOnly_bind (readOnly_query _ _) fun found => ?_)
  cases found with
  | none => exact readOnly_fail _
  | some => exact readOnly_pure _

inductive Upgraded (store : OrderStore) (userId : Int) (upgradeGroup : String) : String → OrderStore → Prop
  | stays (already : upgradeGroup = "" ∨ groupName store userId = upgradeGroup) :
      Upgraded store userId upgradeGroup "" store
  | moves (upgrades : upgradeGroup ≠ "") (leaves : groupName store userId ≠ upgradeGroup) :
      Upgraded store userId upgradeGroup (groupName store userId)
        (store.updateUser userId id fun user => { user with group := upgradeGroup })

theorem upgradeUserGroup_ok {userId} (ran : upgradeUserGroup userId upgradeGroup faults store =
    (.ok prevGroup, after)) :
    Upgraded store userId upgradeGroup prevGroup after := by
  unfold upgradeUserGroup getUserGroupByIdTx at ran
  split_ifs at ran with none nobody
  · obtain ⟨rfl, rfl⟩ := pure_eq_ok.mp ran
    exact .stays (.inl none)
  · obtain ⟨_, _, failed, -⟩ := bind_eq_ok.mp ran
    cases (fail_eq.mp failed).1
  · obtain ⟨-, cont⟩ := query_bind_eq_ok.mp ran
    split_ifs at cont with same
    · obtain ⟨rfl, rfl⟩ := pure_eq_ok.mp cont
      exact .stays (.inr same)
    · obtain ⟨rfl, rfl⟩ := pure_eq_ok.mp (execute_bind_eq_ok.mp cont).2
      exact .moves none same

theorem upgraded_frame {userId}
    (upgraded : Upgraded store userId upgradeGroup prevGroup after) :
    ∃ users, after = { store with users := users } := by
  cases upgraded with
  | stays => exact ⟨store.users, rfl⟩
  | moves => exact ⟨_, updateUser_columns store userId _⟩

theorem checkPurchases_ok {userId plan} (ran : checkPurchases userId plan faults store =
    (.ok value, after)) : after = store ∧
      (0 < plan.maxPurchasePerUser → (store.subscriptions.purchases userId plan.id : Int) <
        plan.maxPurchasePerUser) := by
  unfold checkPurchases at ran
  split_ifs at ran with limited
  · obtain ⟨_, _, counting, done⟩ := bind_eq_ok.mp ran
    obtain ⟨-, rfl, rfl⟩ := query_eq_ok.mp counting
    split_ifs at done with reached
    · cases (fail_eq.mp done).1
    · exact ⟨(pure_eq.mp done).2, fun _ => not_le.mp reached⟩
  · exact ⟨(pure_eq.mp ran).2, fun pos => absurd pos limited⟩

theorem createUserSubscriptionFromPlanTx_ok {userId dbNow plan source}
    (ran : createUserSubscriptionFromPlanTx env userId plan source dbNow faults store = (.ok value, after)) :
    ∃ endUnix prevGroup upgraded, plan.id ≠ 0 ∧ 0 < userId ∧
      calcPlanEndTime env.subscriptions.location dbNow plan = .ok endUnix ∧
      (0 < plan.maxPurchasePerUser → (store.subscriptions.purchases userId plan.id : Int) < plan.maxPurchasePerUser) ∧
      Upgraded store userId (trimSpace plan.upgradeGroup) prevGroup upgraded ∧
      after = upgraded.setSubscriptions (upgraded.subscriptions.insertSubscription
        (planSubscription env userId plan source dbNow endUnix prevGroup)) := by
  unfold createUserSubscriptionFromPlanTx at ran
  split_ifs at ran with invalid nobody
  · cases (fail_eq.mp ran).1
  · cases (fail_eq.mp ran).1
  · obtain ⟨_, _, checked, cont⟩ := bind_eq_ok.mp ran
    obtain ⟨rfl, below⟩ := checkPurchases_ok checked
    cases ends : calcPlanEndTime env.subscriptions.location dbNow plan with
    | error =>
      rw [ends] at cont
      cases (fail_eq.mp cont).1
    | ok endUnix =>
      rw [ends] at cont
      obtain ⟨prevGroup, upgraded, upgrading, creating⟩ := bind_eq_ok.mp cont
      exact ⟨endUnix, prevGroup, upgraded, invalid, not_le.mp nobody, rfl, below, upgradeUserGroup_ok upgrading,
        (execute_eq_ok.mp creating).2⟩

theorem upsertSubscriptionTopUpTx_ok {order now} (ran : upsertSubscriptionTopUpTx order now faults
    store = (.ok value, after)) :
    ∃ topUps, Upserted order store.topUps topUps ∧ after = { store with topUps := topUps } := by
  obtain ⟨found, _, looked, cont⟩ := bind_eq_ok.mp ran
  obtain ⟨-, answer, rfl⟩ := query_eq_ok.mp looked
  cases found with
  | none => exact ⟨_, .created now answer.symm, (execute_eq_ok.mp cont).2⟩
  | some topUp =>
    dsimp only at cont
    by_cases mismatch : topUp.paymentMethod ≠ "" ∧ topUp.paymentMethod ≠ order.paymentMethod
    · rw [if_pos mismatch] at cont
      cases (fail_eq.mp cont).1
    · rw [if_neg mismatch] at cont
      exact ⟨_, .updated topUp _ answer.symm, (execute_eq_ok.mp cont).2⟩

end Statements

/-! ## Transactions -/

section Transactions
variable {store : OrderStore} {tradeNo : String} (holds : OrderStore → Prop)

theorem unlessBlank_store {blank : String} {body : OrderDb Unit} (same : holds store)
    (ran : holds (body faults store).2) : holds ((if tradeNo = "" then fail blank else body) faults store).2 := by
  split_ifs
  · exact same
  · exact ran

theorem lockedTransaction_store {α : Type} {lock : OrderDb α} {found : α → Prop}
    {next : α → OrderDb Unit} (same : holds store)
    (locks : ∀ {row after}, lock faults store = (.ok row, after) → after = store ∧ found row)
    (effect : ∀ row value after, found row → next row faults store = (.ok value, after) → holds after) :
    holds (transaction .start .commit (lock >>= next) faults store).2 := by
  refine transaction_store holds rfl same fun value after ran => ?_
  obtain ⟨row, _, locked, cont⟩ := bind_eq_ok.mp ran
  obtain ⟨rfl, found⟩ := locks locked
  exact effect row value after found cont

def PaidBy (store : OrderStore) (tradeNo : String) (accepts : TopUp → Prop) (pays : TopUp → OrderStore → Prop)
    (after : OrderStore) : Prop :=
  after = store ∨ ∃ topUp, store.topUps.find? tradeNo = some topUp ∧ topUp.status = .pending ∧ accepts topUp ∧
    pays topUp after

theorem recharge_paid (referenceId customerId : String) :
    PaidBy store referenceId (fun topUp => topUp.paymentProvider = .stripe)
      (fun topUp after => after = paidStore store topUp now
        (fun quota => env.column.store (quota + stripeQuota env topUp))
        fun user => { user with stripeCustomer := customerId })
          (recharge env referenceId customerId now faults store).2 := by
  refine unlessBlank_store (PaidBy _ _ _ _) (.inl rfl) ?_
  rw [concealError_store]
  refine lockedTransaction_store (PaidBy _ _ _ _) (.inl rfl) lockTopUp_ok fun topUp _ _ found cont => ?_
  split_ifs at cont with foreign closed
  · cases (fail_eq.mp cont).1
  · cases (fail_eq.mp cont).1
  · exact .inr ⟨topUp, found, not_not.mp closed, not_not.mp foreign, payTopUp_ok cont⟩

theorem rechargeCreem_paid (referenceId customerEmail : String) :
    PaidBy store referenceId (fun topUp => topUp.paymentProvider = .creem)
      (fun topUp after => ∃ columns, after = paidStore store topUp now (· + topUp.amount) columns)
      (rechargeCreem referenceId customerEmail now faults store).2 := by
  refine unlessBlank_store (PaidBy _ _ _ _) (.inl rfl) ?_
  rw [concealError_store]
  refine lockedTransaction_store (PaidBy _ _ _ _) (.inl rfl) lockTopUp_ok fun topUp _ _ found cont => ?_
  split_ifs at cont with foreign closed
  · cases (fail_eq.mp cont).1
  · cases (fail_eq.mp cont).1
  · obtain ⟨-, named⟩ := execute_bind_eq_ok.mp cont
    obtain ⟨columns, _, looking, crediting⟩ := bind_eq_ok.mp named
    obtain rfl := creemColumns_readOnly _ _ _ _ _ _ looking
    exact .inr ⟨topUp, found, not_not.mp closed, not_not.mp foreign, columns, (execute_eq_ok.mp crediting).2⟩

theorem rechargeByAmount_paid (provider) (tradeNo : String) :
    PaidBy store tradeNo (fun topUp => topUp.paymentProvider = provider)
      (fun topUp after => 0 < intPart (topUp.amount * env.quotaPerUnit) ∧
        after = paidStore store topUp now (· + intPart (topUp.amount * env.quotaPerUnit)) id)
      (rechargeByAmount env provider tradeNo now faults store).2 := by
  refine unlessBlank_store (PaidBy _ _ _ _) (.inl rfl) ?_
  rw [concealError_store]
  refine lockedTransaction_store (PaidBy _ _ _ _) (.inl rfl) lockTopUp_ok fun topUp _ _ found cont => ?_
  dsimp only at cont
  split_ifs at cont with foreign done closed worthless
  · cases (fail_eq.mp cont).1
  · exact .inl (pure_eq.mp cont).2
  · cases (fail_eq.mp cont).1
  · cases (fail_eq.mp cont).1
  · exact .inr ⟨topUp, found, not_not.mp closed, not_not.mp foreign, lt_of_not_ge worthless, payTopUp_ok cont⟩

theorem manualCompleteTopUp_paid (tradeNo : String) : PaidBy store tradeNo (fun _ => True)
      (fun topUp after => 0 < manualQuota env topUp ∧ after = paidStore store topUp now (· + manualQuota env topUp) id)
      (manualCompleteTopUp env tradeNo now faults store).2 := by
  refine unlessBlank_store (PaidBy _ _ _ _) (.inl rfl) ?_
  refine lockedTransaction_store (PaidBy _ _ _ _) (.inl rfl) lockTopUp_ok fun topUp _ _ found cont => ?_
  dsimp only at cont
  split_ifs at cont with done closed worthless
  · exact .inl (pure_eq.mp cont).2
  · cases (fail_eq.mp cont).1
  · cases (fail_eq.mp cont).1
  · exact .inr ⟨topUp, found, not_not.mp closed, trivial, lt_of_not_ge worthless, payTopUp_ok cont⟩

end Transactions

/-! ## Calls -/

section Effects
variable {store : OrderStore} {dbNow : Int} {call : OrderCall}

theorem recharge_effect (referenceId customerId : String) :
    OrderEffect env (.recharge referenceId customerId) store
      (recharge env referenceId customerId now faults store).2 := by
  rcases recharge_paid referenceId customerId with same | ⟨topUp, found, pending, own, after⟩
  · rw [same]
    exact .nothing
  · rw [after]
    refine .paid topUp now _ _ found pending (fun _ same => Option.some.inj same ▸ own) fun creditable => ?_
    obtain ⟨present, _⟩ := creditable topUp found pending
    refine ⟨present, fun balance => ?_⟩
    have more : ((balance + 1 : Int) : Rat) ≤ balance + stripeQuota env topUp := by
      push_cast
      linarith
    have stored := env.column.mono more
    rw [env.column.exact] at stored
    omega

theorem rechargeCreem_effect (referenceId customerEmail : String) :
    OrderEffect env (.rechargeCreem referenceId customerEmail) store
      (rechargeCreem referenceId customerEmail now faults store).2 := by
  rcases rechargeCreem_paid referenceId customerEmail with same | ⟨topUp, found, pending, own, columns, after⟩
  · rw [same]
    exact .nothing
  · rw [after]
    refine .paid topUp now _ _ found pending (fun _ same => Option.some.inj same ▸ own) fun creditable => ?_
    obtain ⟨present, _⟩ := creditable topUp found pending
    exact ⟨present, fun _ => by omega⟩

theorem rechargeByAmount_effect {provider} (gateway : call.gateway = some provider)
    (present : Creditable env store call → ∀ topUp, store.topUps.find? call.tradeNo = some topUp →
      topUp.status = .pending → (store.users topUp.userId).isSome) :
    OrderEffect env call store (rechargeByAmount env provider call.tradeNo now faults store).2 := by
  rcases rechargeByAmount_paid provider call.tradeNo with same | ⟨topUp, found, pending, own, pos, after⟩
  · rw [same]
    exact .nothing
  · rw [after]
    refine .paid topUp now _ _ found pending (fun _ same => ?_) fun creditable => ?_
    · exact own.trans (Option.mem_unique gateway same)
    · exact ⟨present creditable topUp found pending, fun _ => by omega⟩

theorem manualCompleteTopUp_effect (tradeNo : String) :
    OrderEffect env (.manualCompleteTopUp tradeNo) store (manualCompleteTopUp env tradeNo now faults store).2 := by
  rcases manualCompleteTopUp_paid tradeNo with same | ⟨topUp, found, pending, -, pos, after⟩
  · rw [same]
    exact .nothing
  · rw [after]
    refine .paid topUp now _ _ found pending (fun _ bad => nomatch bad) fun creditable => ?_
    exact ⟨creditable topUp found pending, fun _ => by omega⟩

variable {expected : PaymentProvider}

theorem updatePendingTopUpStatus_effect {tradeNo : String} {target : TopUpStatus}
    (site : OrderCall.FromCallSite (.updatePendingTopUpStatus tradeNo expected target)) :
    OrderEffect env (.updatePendingTopUpStatus tradeNo expected target) store
      (updatePendingTopUpStatus tradeNo expected target faults store).2 := by
  refine unlessBlank_store (OrderEffect _ _ _) .nothing ?_
  refine lockedTransaction_store (OrderEffect _ _ _) .nothing lockTopUp_ok fun topUp _ _ found cont => ?_
  split_ifs at cont with foreign closed
  · cases (fail_eq.mp cont).1
  · cases (fail_eq.mp cont).1
  · rw [(execute_eq_ok.mp cont).2]
    refine .closed topUp target found (not_not.mp closed) (fun _ same => ?_) site.2
    cases same
    exact not_not.mp fun other => foreign ⟨site.1, other⟩

theorem completeSubscriptionOrder_effect {tradeNo providerPayload actualPaymentMethod : String}
    (site : OrderCall.FromCallSite (.completeSubscriptionOrder tradeNo providerPayload expected actualPaymentMethod)) :
    OrderEffect env (.completeSubscriptionOrder tradeNo providerPayload expected actualPaymentMethod) store
      (completeSubscriptionOrder env tradeNo providerPayload expected actualPaymentMethod now dbNow
        faults store).2 := by
  refine unlessBlank_store (OrderEffect _ _ _) .nothing ?_
  refine lockedTransaction_store (OrderEffect _ _ _) .nothing lockOrder_ok fun order _ _ found cont => ?_
  split_ifs at cont with foreign done closed
  · cases (fail_eq.mp cont).1
  · rw [(pure_eq.mp cont).2]
    exact .nothing
  · cases (fail_eq.mp cont).1
  · obtain ⟨_, _, looking, planned⟩ := bind_eq_ok.mp cont
    obtain rfl := readOnly_zoom (fun _ => rfl) (readOnly_within (getSubscriptionPlanById_readOnly _ _)) _ _ _ _ looking
    obtain ⟨_, _, creating, recorded⟩ := bind_eq_ok.mp planned
    obtain ⟨_, _, _, -, -, -, -, upgraded, rfl⟩ := createUserSubscriptionFromPlanTx_ok creating
    obtain ⟨users, rfl⟩ := upgraded_frame upgraded
    obtain ⟨_, _, upserting, saving⟩ := bind_eq_ok.mp recorded
    obtain ⟨topUps, upserted, rfl⟩ := upsertSubscriptionTopUpTx_ok upserting
    rw [(execute_eq_ok.mp saving).2]
    refine .subscribed order now providerPayload actualPaymentMethod users _ topUps found (not_not.mp closed)
      (fun _ same => ?_) upserted
    cases same
    exact not_not.mp fun other => foreign ⟨site, other⟩

theorem expireSubscriptionOrder_effect {tradeNo : String}
    (site : OrderCall.FromCallSite (.expireSubscriptionOrder tradeNo expected)) :
    OrderEffect env (.expireSubscriptionOrder tradeNo expected) store
      (expireSubscriptionOrder tradeNo expected now faults store).2 := by
  refine unlessBlank_store (OrderEffect _ _ _) .nothing ?_
  refine lockedTransaction_store (OrderEffect _ _ _) .nothing lockOrder_ok fun order _ _ found cont => ?_
  split_ifs at cont with foreign closed
  · cases (fail_eq.mp cont).1
  · rw [(pure_eq.mp cont).2]
    exact .nothing
  · rw [(execute_eq_ok.mp cont).2]
    refine .expired order now found (not_not.mp closed) fun _ same => ?_
    cases same
    exact not_not.mp fun other => foreign ⟨site, other⟩

theorem performCall_effect (site : call.FromCallSite) :
    OrderEffect env call store (performCall env call now dbNow faults store).2 := by
  cases call with
  | recharge referenceId customerId => exact recharge_effect referenceId customerId
  | rechargeCreem referenceId customerEmail => exact rechargeCreem_effect referenceId customerEmail
  | rechargeWaffo => exact rechargeByAmount_effect rfl id
  | rechargeWaffoPancake => exact rechargeByAmount_effect rfl id
  | manualCompleteTopUp tradeNo => exact manualCompleteTopUp_effect tradeNo
  | updatePendingTopUpStatus => exact updatePendingTopUpStatus_effect site
  | completeSubscriptionOrder => exact completeSubscriptionOrder_effect site
  | expireSubscriptionOrder => exact expireSubscriptionOrder_effect site

end Effects
end NewApi.Proof
