import NewApi.Proof.OrderEffects

/-! # Orders are credited once -/

namespace NewApi.Proof
open Library Common Model OrderStore Table
variable {store : OrderStore} {env : OrderEnv}

def Separate (store : OrderStore) : Prop :=
  ∀ tradeNo order topUp, store.orders.find? tradeNo = some order → store.topUps.find? tradeNo = some topUp →
    order.status = .success ∧ topUp.status = .success

def Placed (store : OrderStore) : OrderEvent → Prop
  | .call call _ _ _ => call.FromCallSite
  | .createTopUp topUp => topUp.status = .pending ∧ store.orders.find? topUp.tradeNo = none
  | .createOrder order => order.status = .pending ∧ store.topUps.find? order.tradeNo = none
  | .rest _ _ _ => True

def CreditableEvent (env : OrderEnv) (store : OrderStore) : OrderEvent → Prop
  | .call call _ _ _ => Creditable env store call
  | _ => True

variable (before after : OrderStore)

def Credited : Prop :=
  (∃ id, before.accounts.userQuota id < after.accounts.userQuota id) ∨
    ∃ sub ∈ after.subscriptions.subscriptions.rows, sub ∉ before.subscriptions.subscriptions.rows

def Credits (tradeNo : String) : OrderEvent → Prop
  | .call call _ _ _ => call.tradeNo = tradeNo ∧ Credited before after
  | _ => False

def OthersKept (gateway : PaymentProvider) (before after : OrderStore) : Prop :=
  (∀ tradeNo topUp, before.topUps.find? tradeNo = some topUp → topUp.paymentProvider ≠ gateway →
      after.topUps.find? tradeNo = some topUp) ∧
    ∀ tradeNo order, before.orders.find? tradeNo = some order → order.paymentProvider ≠ gateway →
      after.orders.find? tradeNo = some order

def Moves (old new : TopUpStatus) : Prop := new = old ∨ (old = .pending ∧ new ≠ .pending)

def StatusesMove : Prop :=
  (∀ tradeNo topUp, before.topUps.find? tradeNo = some topUp →
      ∃ row, after.topUps.find? tradeNo = some row ∧ Moves topUp.status row.status) ∧
    ∀ tradeNo order, before.orders.find? tradeNo = some order →
      ∃ row, after.orders.find? tradeNo = some row ∧ Moves order.status row.status

section Paid
variable {topUp : TopUp} {now : Int} {quota : Int → Int} {columns : User → User} {tradeNo : String}

theorem paidStore_find? (found : store.topUps.find? tradeNo = some topUp) (other : String) :
    (paidStore store topUp now quota columns).topUps.find? other =
      if other = tradeNo then some { topUp with completeTime := now, status := .success }
      else store.topUps.find? other := by
  have number : topUp.tradeNo = tradeNo := (find?_eq_some.mp found).2
  rw [paidStore, updateUser_topUps]
  exact find?_save_of_some found (by exact number) other

theorem updateUser_raises {id} (present : (store.users id).isSome) (raises : ∀ balance, balance < quota balance) :
    ∃ user, store.accounts.userQuota user < (store.updateUser id quota columns).accounts.userQuota user := by
  obtain ⟨_, found⟩ := Option.isSome_iff_exists.mp present
  refine ⟨id, ?_⟩
  simp only [updateUser, found, Function.update_self]
  exact raises _

theorem paidStore_raises (present : (store.users topUp.userId).isSome) (raises : ∀ balance, balance < quota balance) :
    ∃ user, store.accounts.userQuota user < (paidStore store topUp now quota columns).accounts.userQuota user := by
  have saved : ((store.saveTopUp { topUp with completeTime := now, status := .success }).users
    topUp.userId).isSome := present
  exact updateUser_raises saved raises

end Paid

/-! ## One call -/

section Calls
variable {call : OrderCall} {after : OrderStore}

theorem separate_topUp (separate : Separate store) {tradeNo topUp}
    (found : store.topUps.find? tradeNo = some topUp) (pending : topUp.status = .pending) :
    store.orders.find? tradeNo = none := by
  cases ordered : store.orders.find? tradeNo with
  | none => rfl
  | some order =>
    have done := (separate tradeNo order topUp ordered found).2
    rw [pending] at done
    cases done

theorem separate_order (separate : Separate store) {tradeNo order}
    (found : store.orders.find? tradeNo = some order) (pending : order.status = .pending) :
    store.topUps.find? tradeNo = none := by
  cases shown : store.topUps.find? tradeNo with
  | none => rfl
  | some topUp =>
    have done := (separate tradeNo order topUp found shown).1
    rw [pending] at done
    cases done

structure TopUpChanged (call : OrderCall) (store after : OrderStore) (topUp row : TopUp) : Prop where
  found : store.topUps.find? call.tradeNo = some topUp
  pending : topUp.status = .pending
  own : ∀ gateway, call.gateway = some gateway → topUp.paymentProvider = gateway
  moved : row.status ≠ .pending
  topUps : ∀ tradeNo, after.topUps.find? tradeNo =
    if tradeNo = call.tradeNo then some row else store.topUps.find? tradeNo
  orders : after.orders = store.orders

structure OrderChanged (call : OrderCall) (store after : OrderStore) (order row : SubscriptionOrder) : Prop where
  found : store.orders.find? call.tradeNo = some order
  pending : order.status = .pending
  own : ∀ gateway, call.gateway = some gateway → order.paymentProvider = gateway
  moved : row.status ≠ .pending
  orders : ∀ tradeNo, after.orders.find? tradeNo =
    if tradeNo = call.tradeNo then some row else store.orders.find? tradeNo
  topUps : ∀ tradeNo, tradeNo ≠ call.tradeNo → after.topUps.find? tradeNo = store.topUps.find? tradeNo
  copied : ∀ copy, after.topUps.find? call.tradeNo = some copy → row.status = .success ∧ copy.status = .success

def CreditFits (env : OrderEnv) (call : OrderCall) (store after : OrderStore) (status : TopUpStatus) : Prop :=
  (status = .success ∧ (Creditable env store call → Credited store after)) ∨
    (status ≠ .success ∧ ¬Credited store after)

theorem not_credited (quota : after.accounts = store.accounts) (same : after.subscriptions = store.subscriptions) :
    ¬Credited store after := by
  rintro (⟨_, more⟩ | ⟨_, created, absent⟩)
  · rw [quota] at more
    exact lt_irrefl _ more
  · rw [same] at created
    exact absent created

theorem credited_subscription {sub}
    (created : after.subscriptions = store.subscriptions.insertSubscription sub) : Credited store after := by
  refine .inr ⟨{ sub with id := store.subscriptions.nextId }, by simp [created, insertSubscription_rows], ?_⟩
  intro present
  exact absurd (lt_nextId present) (lt_irrefl _)

theorem find?_shadow {order} (absent : store.topUps.find? order.tradeNo = none) (now : Int)
    (tradeNo : String) : (store.topUps.insert (shadowTopUp order now)).find? tradeNo =
      if tradeNo = order.tradeNo then some (shadowTopUp order now) else store.topUps.find? tradeNo := by
  have fresh : store.topUps.find? (shadowTopUp order now).tradeNo = none := absent
  exact find?_insert fresh

theorem upserted_shadow {order topUps}
    (absent : store.topUps.find? order.tradeNo = none) (upserted : Upserted order store.topUps topUps) :
    ∃ now, topUps = store.topUps.insert (shadowTopUp order now) := by
  cases upserted with
  | created now => exact ⟨now, rfl⟩
  | updated _ _ found => simp [absent] at found

theorem orderEffect_cases (separate : Separate store) (effect : OrderEffect env call store after) : after = store ∨
      (∃ topUp row, TopUpChanged call store after topUp row ∧ CreditFits env call store after row.status) ∨
      ∃ order row, OrderChanged call store after order row ∧ CreditFits env call store after row.status := by
  cases effect with
  | nothing => exact .inl rfl
  | paid topUp now _ _ found pending own raises =>
    refine .inr (.inl ⟨topUp, { topUp with completeTime := now, status := .success },
      ⟨found, pending, own, by simp, paidStore_find? found, ?_⟩, .inl ⟨rfl, fun creditable => ?_⟩⟩)
    · rw [paidStore, updateUser_orders]
      rfl
    · obtain ⟨present, more⟩ := raises creditable
      exact .inl (paidStore_raises present more)
  | closed topUp target found pending own closes =>
    have number := (find?_eq_some.mp found).2
    refine .inr (.inl ⟨topUp, { topUp with status := target }, ⟨found, pending, own, ?_, ?_, rfl⟩,
      .inr ⟨?_, not_credited rfl rfl⟩⟩)
    · rcases closes with rfl | rfl <;> simp
    · exact fun tradeNo => find?_save_of_some found (by exact number) tradeNo
    · rcases closes with rfl | rfl <;> simp
  | subscribed order now providerPayload actualPaymentMethod _ _ topUps found pending own upserted =>
    have number := (find?_eq_some.mp found).2
    have absent : store.topUps.find? order.tradeNo = none := number ▸ separate_order separate found pending
    obtain ⟨now', rfl⟩ := upserted_shadow absent upserted
    refine .inr (.inr ⟨order, completedOrder order providerPayload actualPaymentMethod now,
      ⟨found, pending, own, ?_, ?_, ?_, ?_⟩, .inl ⟨rfl, fun _ => credited_subscription rfl⟩⟩)
    · simp [completedOrder]
    · exact fun tradeNo => find?_save_of_some found (by exact number) tradeNo
    · intro tradeNo other
      exact (find?_shadow absent now' tradeNo).trans (if_neg (number ▸ other))
    · intro _ shown
      have found' := (find?_shadow absent now' call.tradeNo).symm.trans shown
      rw [if_pos number.symm] at found'
      cases found'
      exact ⟨rfl, rfl⟩
  | expired order now found pending own =>
    have number := (find?_eq_some.mp found).2
    have absent := separate_order separate found pending
    refine .inr (.inr ⟨order, { order with status := .expired, completeTime := now },
      ⟨found, pending, own, ?_, ?_, fun _ _ => rfl, fun _ shown => ?_⟩, .inr ⟨?_, not_credited rfl rfl⟩⟩)
    · simp
    · exact fun tradeNo => find?_save_of_some found (by exact number) tradeNo
    · exact absurd (absent.symm.trans shown) (by simp)
    · simp

theorem separate_call (separate : Separate store) (effect : OrderEffect env call store after) : Separate after := by
  intro tradeNo order' topUp' ordered shown
  rcases orderEffect_cases separate effect with rfl | ⟨topUp, row, changed, -⟩ | ⟨order, row, changed, -⟩
  · exact separate tradeNo order' topUp' ordered shown
  · rw [changed.orders] at ordered
    rw [changed.topUps] at shown
    split_ifs at shown with same
    · rw [same, separate_topUp separate changed.found changed.pending] at ordered
      cases ordered
    · exact separate tradeNo order' topUp' ordered shown
  · rw [changed.orders] at ordered
    split_ifs at ordered with same
    · cases ordered
      exact changed.copied topUp' (same ▸ shown)
    · exact separate tradeNo order' topUp' ordered (changed.topUps tradeNo same ▸ shown)

theorem othersKept_call {gateway} (separate : Separate store) (effect : OrderEffect env call store after)
    (called : call.gateway = some gateway) : OthersKept gateway store after := by
  rcases orderEffect_cases separate effect with rfl | ⟨topUp, row, changed, -⟩ | ⟨order, row, changed, -⟩
  · exact ⟨fun _ _ found _ => found, fun _ _ found _ => found⟩
  · refine ⟨fun tradeNo other found foreign => ?_, fun tradeNo other found _ => by rwa [changed.orders]⟩
    rw [changed.topUps, if_neg, found]
    rintro rfl
    rw [changed.found] at found
    cases found
    exact foreign (changed.own gateway called)
  · refine ⟨fun tradeNo _ found _ => ?_, fun tradeNo _ found foreign => ?_⟩
    · rw [changed.topUps tradeNo, found]
      rintro rfl
      rw [separate_order separate changed.found changed.pending] at found
      cases found
    · rw [changed.orders, if_neg, found]
      rintro rfl
      rw [changed.found] at found
      cases found
      exact foreign (changed.own gateway called)

theorem statusesMove_call (separate : Separate store) (effect : OrderEffect env call store after) :
    StatusesMove store after := by
  rcases orderEffect_cases separate effect with rfl | ⟨topUp, row, changed, -⟩ | ⟨order, row, changed, -⟩
  · exact ⟨fun _ other found => ⟨other, found, .inl rfl⟩, fun _ other found => ⟨other, found, .inl rfl⟩⟩
  · refine ⟨fun tradeNo other found => ?_, fun tradeNo other found => ⟨other, by rwa [changed.orders], .inl rfl⟩⟩
    rw [changed.topUps]
    split_ifs with same
    · rw [same, changed.found] at found
      cases found
      exact ⟨row, rfl, .inr ⟨changed.pending, changed.moved⟩⟩
    · exact ⟨other, found, .inl rfl⟩
  · refine ⟨fun tradeNo other found => ⟨other, ?_, .inl rfl⟩, fun tradeNo other found => ?_⟩
    · rw [changed.topUps tradeNo, found]
      rintro rfl
      rw [separate_order separate changed.found changed.pending] at found
      cases found
    · rw [changed.orders]
      split_ifs with same
      · rw [same, changed.found] at found
        cases found
        exact ⟨row, rfl, .inr ⟨changed.pending, changed.moved⟩⟩
      · exact ⟨other, found, .inl rfl⟩

theorem status_call (separate : Separate store) (effect : OrderEffect env call store after) :
    (∀ tradeNo, tradeNo ≠ call.tradeNo → after.status tradeNo = store.status tradeNo) ∧
      ((after.status call.tradeNo = store.status call.tradeNo ∧ ¬Credited store after) ∨
        ∃ status, store.status call.tradeNo = some .pending ∧ after.status call.tradeNo = some status ∧
          status ≠ .pending ∧ CreditFits env call store after status) := by
  unfold status
  rcases orderEffect_cases separate effect with rfl | ⟨topUp, row, changed, fits⟩ | ⟨order, row, changed, fits⟩
  · exact ⟨fun _ _ => rfl, .inl ⟨rfl, not_credited rfl rfl⟩⟩
  · refine ⟨fun tradeNo other => ?_, .inr ⟨row.status, ?_, ?_, changed.moved, fits⟩⟩
    · rw [changed.orders, changed.topUps, if_neg other]
    · rw [separate_topUp separate changed.found changed.pending]
      simp [changed.found, changed.pending]
    · rw [changed.orders, separate_topUp separate changed.found changed.pending, changed.topUps, if_pos rfl]
      rfl
  · refine ⟨fun tradeNo other => ?_, .inr ⟨row.status, ?_, ?_, changed.moved, fits⟩⟩
    · rw [changed.orders, if_neg other, changed.topUps tradeNo other]
    · simp [changed.found, changed.pending]
    · rw [changed.orders, if_pos rfl]

end Calls

/-! ## Histories -/

section Events
variable {event : OrderEvent}

theorem separate_step (separate : Separate store) (placed : Placed store event) : Separate (store.step env event) := by
  cases event with
  | call => exact separate_call separate (performCall_effect placed)
  | rest => exact separate
  | createTopUp =>
    intro tradeNo order other ordered shown
    rcases mem_insert (find?_eq_some.mp shown).1 with old | rfl
    · exact separate tradeNo order other ordered (find?_eq_some.mpr ⟨old, (find?_eq_some.mp shown).2⟩)
    · have number : other.tradeNo = tradeNo := (find?_eq_some.mp shown).2
      rw [← number] at ordered
      exact absurd (placed.2.symm.trans ordered) (by simp)
  | createOrder =>
    intro tradeNo other topUp ordered shown
    rcases mem_insert (find?_eq_some.mp ordered).1 with old | rfl
    · exact separate tradeNo other topUp (find?_eq_some.mpr ⟨old, (find?_eq_some.mp ordered).2⟩) shown
    · have number : other.tradeNo = tradeNo := (find?_eq_some.mp ordered).2
      rw [← number] at shown
      exact absurd (placed.2.symm.trans shown) (by simp)

theorem statusesMove_step (separate : Separate store) (placed : Placed store event) :
    StatusesMove store (store.step env event) := by
  cases event with
  | call => exact statusesMove_call separate (performCall_effect placed)
  | rest | createTopUp | createOrder =>
    refine ⟨fun _ other found => ⟨other, ?_, .inl rfl⟩, fun _ other found => ⟨other, ?_, .inl rfl⟩⟩
    all_goals first | exact found | exact find?_insert_of_some found

theorem credits_status {tradeNo} (separate : Separate store) (placed : Placed store event)
    (credits : Credits store (store.step env event) tradeNo event) :
    store.status tradeNo = some .pending ∧ (store.step env event).status tradeNo = some .success := by
  cases event with
  | call =>
    obtain ⟨rfl, credited⟩ := credits
    rcases (status_call separate (performCall_effect placed)).2 with ⟨-, uncredited⟩ |
      ⟨status, pending, new, -, ⟨success, -⟩ | ⟨-, uncredited⟩⟩
    · exact absurd credited uncredited
    · exact ⟨pending, success ▸ new⟩
    · exact absurd credited uncredited
  | rest => exact credits.elim
  | createTopUp => exact credits.elim
  | createOrder => exact credits.elim

theorem status_createTopUp {topUp tradeNo status} (pending : topUp.status = .pending)
    (new : (store.step env (.createTopUp topUp)).status tradeNo = some status) (left : status ≠ .pending) :
    store.status tradeNo = some status := by
  unfold OrderStore.status at new ⊢
  cases ordered : store.orders.find? tradeNo with
  | some =>
    simp only [step, ordered] at new
    exact new
  | none =>
    simp only [step, ordered] at new
    obtain ⟨_, shown, rfl⟩ := Option.map_eq_some_iff.mp new
    obtain ⟨mem, number⟩ := find?_eq_some.mp shown
    rcases mem_insert mem with old | rfl
    · simp [find?_eq_some.mpr ⟨old, number⟩]
    · exact absurd pending left

theorem status_createOrder {order tradeNo status}
    (pending : order.status = .pending) (new : (store.step env (.createOrder order)).status tradeNo = some status)
    (left : status ≠ .pending) : store.status tradeNo = some status := by
  unfold OrderStore.status at new ⊢
  simp only [step] at new
  cases ordered : (store.orders.insert order).find? tradeNo with
  | some =>
    rw [ordered] at new
    cases new
    obtain ⟨mem, number⟩ := find?_eq_some.mp ordered
    rcases mem_insert mem with old | rfl
    · rw [find?_eq_some.mpr ⟨old, number⟩]
    · exact absurd pending left
  | none =>
    rw [ordered] at new
    cases old : store.orders.find? tradeNo with
    | none => exact new
    | some => simp [find?_insert_of_some old] at ordered

theorem becomes_success {tradeNo} (separate : Separate store) (placed : Placed store event)
    (before : store.status tradeNo ≠ some .success) (after : (store.step env event).status tradeNo = some .success)
    (creditable : CreditableEvent env store event) : Credits store (store.step env event) tradeNo event := by
  cases event with
  | call call =>
    obtain ⟨others, own⟩ := status_call separate (performCall_effect placed)
    by_cases same : tradeNo = call.tradeNo
    · subst same
      rcases own with ⟨unchanged, -⟩ | ⟨_, -, new, -, ⟨-, credited⟩ | ⟨failed, -⟩⟩
      · exact absurd (unchanged ▸ after) before
      · exact ⟨rfl, credited creditable⟩
      · exact absurd (Option.mem_unique new after) failed
    · exact absurd ((others tradeNo same).symm.trans after) before
  | rest => exact absurd after before
  | createTopUp => exact absurd (status_createTopUp placed.1 after (by simp)) before
  | createOrder => exact absurd (status_createOrder placed.1 after (by simp)) before

def Done (tradeNo : String) (store : OrderStore) : Prop := Separate store ∧ store.status tradeNo = some .success

theorem success_step {tradeNo} (separate : Separate store) (placed : Placed store event)
    (success : store.status tradeNo = some .success) : (store.step env event).status tradeNo = some .success := by
  obtain ⟨topUps, orders⟩ : StatusesMove store (store.step env event) := statusesMove_step separate placed
  have stays {status : TopUpStatus} (moves : Moves .success status) : status = .success := by
    rcases moves with same | ⟨bad, -⟩
    · exact same
    · cases bad
  unfold status at success
  cases ordered : store.orders.find? tradeNo with
  | some order =>
    rw [ordered] at success
    obtain ⟨row, found, moves⟩ := orders tradeNo order ordered
    have kept : row.status = .success := stays (Option.some.inj success ▸ moves)
    simp [status, found, kept]
  | none =>
    rw [ordered] at success
    obtain ⟨topUp, shown, paid⟩ := Option.map_eq_some_iff.mp success
    obtain ⟨row, found, moves⟩ := topUps tradeNo topUp shown
    have copy : row.status = .success := stays (paid ▸ moves)
    unfold status
    cases now : (store.step env event).orders.find? tradeNo with
    | some order =>
      have done := (separate_step separate placed tradeNo order row now found).1
      simp [done]
    | none => simp [found, copy]

end Events

/-- A call that credits an order takes it from pending to success, once. A status becomes success only so, if the user
exists and the order is worth something, and a gateway leaves the orders of others alone. -/
theorem orders_credited_once (env : OrderEnv) (start : OrderStore) (separate : Separate start)
    (first : List OrderEvent) (event : OrderEvent) (rest : List OrderEvent)
    (placed : Along (step env) Placed start (first ++ event :: rest)) :
    let before := run (step env) start first
    let after := before.step env event
    (∀ tradeNo, Credits before after tradeNo event → before.status tradeNo = some .pending ∧
      after.status tradeNo = some .success ∧
        ∀ middle later last, rest = middle ++ later :: last →
          let then_ := run (step env) after middle
          ¬Credits then_ (then_.step env later) tradeNo later) ∧
    (∀ tradeNo, before.status tradeNo ≠ some .success → after.status tradeNo = some .success →
      CreditableEvent env before event → Credits before after tradeNo event) ∧
    (∀ call now dbNow faults gateway, event = .call call now dbNow faults →
      call.gateway = some gateway → OthersKept gateway before after) ∧
    StatusesMove before after := by
  intro before after
  obtain ⟨placedFirst, placedEvent, placedRest⟩ := along_append.mp placed
  have apart : Separate before := run_invariant (fun _ _ => separate_step) separate placedFirst
  refine ⟨fun tradeNo credits => ?_, fun tradeNo => becomes_success apart placedEvent, ?_,
    statusesMove_step apart placedEvent⟩
  · obtain ⟨pending, success⟩ := credits_status apart placedEvent credits
    refine ⟨pending, success, ?_⟩
    rintro _ _ _ rfl then_ again
    obtain ⟨placedMiddle, placedLater, -⟩ := along_append.mp placedRest
    have start : Done tradeNo after := ⟨separate_step apart placedEvent, success⟩
    have kept : Done tradeNo then_ := run_invariant
      (fun _ _ done allowed => ⟨separate_step done.1 allowed, success_step done.1 allowed done.2⟩) start placedMiddle
    have pendingThen := (credits_status kept.1 placedLater again).1
    rw [kept.2] at pendingThen
    cases pendingThen
  · rintro _ _ _ _ _ rfl called
    exact othersKept_call apart (performCall_effect placedEvent) called

def stripeTopUp : TopUp where
  userId := 1
  amount := 2
  money := 2
  tradeNo := "ref_1"
  paymentMethod := "stripe"
  paymentProvider := .stripe
  createTime := 50
  completeTime := 0
  status := .pending

def stripeStore (users : Int → Option User) : OrderStore where
  accounts := ⟨fun _ => 0, fun _ => 0, fun _ => ⟨0, 0⟩, fun _ => 0, fun _ => none⟩
  users := users
  subscriptions := ⟨empty, empty, empty⟩
  topUps := empty.insert stripeTopUp
  orders := empty

def payStripe : OrderEvent := .call (.recharge "ref_1" "cus_1") 100 100 fun _ => none

theorem orders_credited_once_stripe :
    let before := stripeStore fun _ => some ⟨"", "", "default"⟩
    let after := before.step orderEnv payStripe
    Credits before after "ref_1" payStripe ∧ ¬Credits after (after.step orderEnv payStripe) "ref_1" payStripe := by
  intro before _
  have separate : Separate before := fun _ _ _ ordered => nomatch ordered
  have once := orders_credited_once orderEnv before separate [] payStripe [payStripe] ⟨trivial, trivial, trivial⟩
  have creditable : CreditableEvent orderEnv before payStripe := by
    intro topUp found _
    obtain rfl : stripeTopUp = topUp := Option.some.inj found
    exact ⟨rfl, by decide +kernel⟩
  have credits := once.2.1 "ref_1" (by decide) (by decide) creditable
  exact ⟨credits, (once.1 "ref_1" credits).2.2 [] payStripe [] rfl⟩

theorem success_without_credit :
    let before := stripeStore fun _ => none
    let after := before.step orderEnv payStripe
    Separate before ∧ Placed before payStripe ∧ before.status "ref_1" = some .pending ∧
      after.status "ref_1" = some .success ∧ ¬Credits before after "ref_1" payStripe := by
  refine ⟨fun _ _ _ ordered => (nomatch ordered), trivial, by decide, by decide, fun credits => ?_⟩
  exact not_credited rfl rfl credits.2

end NewApi.Proof
