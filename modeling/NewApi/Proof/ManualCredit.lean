import NewApi.Proof.EpayCredit

/-! # Completions by hand -/

namespace NewApi.Proof
open Library Common Model Controller Db

def ownQuota (env : OrderEnv) (topUp : TopUp) : Rat :=
  match topUp.paymentProvider with
  | .stripe => stripeQuota env topUp
  | .creem => topUp.amount
  | _ => (max (intPart (topUp.amount * env.quotaPerUnit)) 0 : Int)

def oneNotification (tradeNo callbackType : String) : List EpayEvent :=
  [.notify 0 0 tradeNo callbackType, .advance 0 false, .advance 0 false, .advance 0 false, .advance 0 false]

def ownPath (env : OrderEnv) (store : OrderStore) (topUp : TopUp) (customer : String) (now : Int) : OrderStore :=
  match topUp.paymentProvider with
  | .epay => (run (EpayState.step env) (.start store) (oneNotification topUp.tradeNo customer)).store
  | .stripe => (recharge env topUp.tradeNo customer now (fun _ => none) store).2
  | .creem => (rechargeCreem topUp.tradeNo customer now (fun _ => none) store).2
  | .waffo => (rechargeWaffo env topUp.tradeNo now (fun _ => none) store).2
  | .waffoPancake => (rechargeWaffoPancake env topUp.tradeNo now (fun _ => none) store).2
  | .unset | .balance => store

section Paths
variable {env : OrderEnv} {store : OrderStore} {topUp : TopUp} {now : Int}

variable {reason : String} {quota : Int → Int} {columns : User → User}

theorem payTopUp_pays :
    payTopUp topUp now quota columns (fun _ => none) store = (.ok (), paidStore store topUp now quota columns) := by
  simp [payTopUp, bind_apply, execute, statement, paidStore]

theorem topUpTransaction_runs {next} (result : Except (Halt String) Unit)
    (after : OrderStore) (found : store.topUps.find? topUp.tradeNo = some topUp)
    (ran : next topUp (fun _ => none) store = (result, after)) :
    (transaction .start .commit (lockTopUp topUp.tradeNo reason >>= next) (fun _ => none) store).2 =
      if result = .ok () then after else store := by
  simp only [transaction, lockTopUp, bind_apply, attempt, query, statement, found, pure_apply, ran]
  cases result <;> simp

theorem paidStore_userQuota (present : (store.users topUp.userId).isSome) :
    (paidStore store topUp now quota columns).accounts.userQuota topUp.userId =
      quota (store.accounts.userQuota topUp.userId) := by
  obtain ⟨_, found⟩ := Option.isSome_iff_exists.mp present
  simp [paidStore, OrderStore.updateUser, OrderStore.saveTopUp, found]

theorem intPart_intCast (value : Int) : intPart value = value := by simp [intPart]

variable (stored : store.topUps.find? topUp.tradeNo = some topUp) (nonblank : topUp.tradeNo ≠ "")
    (pending : topUp.status = .pending)
  (present : (store.users topUp.userId).isSome)

include stored nonblank pending present

theorem manual_userQuota :
    (manualCompleteTopUp env topUp.tradeNo now (fun _ => none) store).2.accounts.userQuota topUp.userId =
      store.accounts.userQuota topUp.userId + max (manualQuota env topUp) 0 := by
  unfold manualCompleteTopUp
  rw [if_neg nonblank]
  by_cases worthless : manualQuota env topUp ≤ 0
  · rw [topUpTransaction_runs _ _ stored (by simp only [pending, worthless]; rfl), if_neg (by simp),
      max_eq_right worthless,
      add_zero]
  · rw [topUpTransaction_runs _ _ stored (by simp only [pending, worthless]; exact payTopUp_pays), if_pos rfl,
      paidStore_userQuota present, max_eq_left (le_of_not_ge worthless)]

theorem rechargeByAmount_userQuota :
    (rechargeByAmount env topUp.paymentProvider topUp.tradeNo now
      (fun _ => none) store).2.accounts.userQuota topUp.userId =
      store.accounts.userQuota topUp.userId + max (intPart (topUp.amount * env.quotaPerUnit)) 0 := by
  unfold rechargeByAmount
  rw [if_neg nonblank, concealError_store]
  by_cases worthless : intPart (topUp.amount * env.quotaPerUnit) ≤ 0
  · rw [topUpTransaction_runs _ _ stored (by
      simp only [pending, worthless, ne_eq, not_true_eq_false, reduceCtorEq, if_true, if_false];
        rfl), if_neg (by simp), max_eq_right worthless,
      add_zero]
  · rw [topUpTransaction_runs _ _ stored (by
      simp only [pending, worthless, ne_eq, not_true_eq_false, reduceCtorEq, if_false];
        exact payTopUp_pays), if_pos rfl,
      paidStore_userQuota present, max_eq_left (le_of_not_ge worthless)]

theorem recharge_userQuota (stripe : topUp.paymentProvider = .stripe) (customerId : String) :
    (recharge env topUp.tradeNo customerId now (fun _ => none) store).2.accounts.userQuota topUp.userId =
      env.column.store (store.accounts.userQuota topUp.userId + stripeQuota env topUp) := by
  unfold recharge
  rw [if_neg nonblank, concealError_store,
    topUpTransaction_runs _ _ stored (by simp only [pending, stripe]; exact payTopUp_pays), if_pos rfl,
    paidStore_userQuota present]

theorem rechargeCreem_userQuota (creem : topUp.paymentProvider = .creem) (customerEmail : String) :
    (rechargeCreem topUp.tradeNo customerEmail now (fun _ => none) store).2.accounts.userQuota topUp.userId =
      store.accounts.userQuota topUp.userId + topUp.amount := by
  obtain ⟨user, found⟩ := Option.isSome_iff_exists.mp present
  have columns : ∃ columns, creemColumns topUp.userId customerEmail (fun _ => none)
      (store.saveTopUp { topUp with completeTime := now, status := .success }) =
        (.ok columns, store.saveTopUp { topUp with completeTime := now, status := .success }) := by
    unfold creemColumns
    split_ifs with anonymous
    · exact ⟨_, rfl⟩
    · refine ⟨_, bind_eq_ok.mpr ⟨some user, _, query_eq_ok.mpr ⟨rfl, ?_, rfl⟩, rfl⟩⟩
      exact found.symm
  obtain ⟨columns, looked⟩ := columns
  have paid : (paidStore store topUp now (· + topUp.amount) columns).accounts.userQuota topUp.userId =
      store.accounts.userQuota topUp.userId + topUp.amount := paidStore_userQuota present
  unfold rechargeCreem
  rw [if_neg nonblank, concealError_store,
    topUpTransaction_runs (.ok ()) (paidStore store topUp now (· + topUp.amount) columns) stored, if_pos rfl, paid]
  rw [if_neg (by simp [creem]), if_neg (by simp [pending])]
  exact bind_eq_ok.mpr ⟨(), _, execute_eq_ok.mpr ⟨rfl, rfl⟩,
    bind_eq_ok.mpr ⟨columns, _, looked, execute_eq_ok.mpr ⟨rfl, rfl⟩⟩⟩

omit nonblank in
theorem epay_userQuota (epay : topUp.paymentProvider = .epay) (callbackType : String) :
    (run (EpayState.step env) (.start store)
      (oneNotification topUp.tradeNo callbackType)).store.accounts.userQuota topUp.userId =
      store.accounts.userQuota topUp.userId + max (intPart (topUp.amount * env.quotaPerUnit)) 0 := by
  obtain ⟨_, found⟩ := Option.isSome_iff_exists.mp present
  by_cases negative : intPart (topUp.amount * env.quotaPerUnit) < 0
  · rw [max_eq_right negative.le]
    simp [oneNotification, run, EpayState.step, EpayState.start, EpayState.setRequest, EpayState.advance,
      EpayState.findTopUp, EpayState.setLock, EpayState.finish, stored, pending, epay, epayQuota, negative,
      OrderStore.saveTopUp]
  · rw [max_eq_left (not_lt.mp negative)]
    simp [oneNotification, run, EpayState.step, EpayState.start, EpayState.setRequest, EpayState.advance,
      EpayState.findTopUp, EpayState.setLock, EpayState.finish, stored, pending, epay, epayQuota, negative,
      EpayState.increaseUserQuota, OrderStore.saveTopUp, OrderStore.updateUser, found]

theorem ownPath_userQuota (gateway : topUp.paymentProvider ≠ .unset ∧
    topUp.paymentProvider ≠ .balance) (customer : String) :
    (ownPath env store topUp customer now).accounts.userQuota topUp.userId =
      if topUp.paymentProvider = .stripe then
        env.column.store (store.accounts.userQuota topUp.userId + ownQuota env topUp)
      else store.accounts.userQuota topUp.userId + intPart (ownQuota env topUp) := by
  have byAmount :
    (rechargeByAmount env topUp.paymentProvider topUp.tradeNo now
    (fun _ => none) store).2.accounts.userQuota
      topUp.userId = store.accounts.userQuota topUp.userId + max (intPart (topUp.amount * env.quotaPerUnit)) 0 :=
    rechargeByAmount_userQuota stored nonblank pending present
  have whole : intPart (max (intPart (topUp.amount * env.quotaPerUnit)) 0 : Int) =
      max (intPart (topUp.amount * env.quotaPerUnit)) 0 := intPart_intCast _
  unfold ownPath ownQuota
  cases provider : topUp.paymentProvider with
  | unset => exact absurd provider gateway.1
  | balance => exact absurd provider gateway.2
  | stripe => exact recharge_userQuota stored nonblank pending present provider customer
  | creem =>
    simp only [reduceCtorEq, if_false, intPart_intCast]
    exact rechargeCreem_userQuota stored nonblank pending present provider customer
  | epay =>
    simp only [reduceCtorEq, if_false, whole]
    exact epay_userQuota stored pending present provider customer
  | waffo | waffoPancake =>
    simp only [reduceCtorEq, if_false, whole]
    rwa [provider] at byAmount

end Paths

theorem intPart_of_nonneg {value : Rat} (nonneg : 0 ≤ value) : intPart value = ⌊value⌋ := by
  rw [intPart, Rat.floor_def', Int.tdiv_eq_ediv_of_nonneg (Rat.num_nonneg.mpr nonneg)]

theorem intPart_of_nonpos {value : Rat} (nonpos : value ≤ 0) : intPart value = -⌊-value⌋ := by
  rw [← intPart_of_nonneg (neg_nonneg.mpr nonpos)]
  simp [intPart]

theorem max_intPart (value : Rat) : max (intPart value) 0 = max ⌊value⌋ 0 := by
  rcases le_total 0 value with nonneg | nonpos
  · rw [intPart_of_nonneg nonneg]
  · have ceiled : 0 ≤ ⌊-value⌋ := Int.floor_nonneg.mpr (neg_nonneg.mpr nonpos)
    have floored : ⌊value⌋ ≤ 0 := by simpa using Int.floor_mono nonpos
    rw [intPart_of_nonpos nonpos, max_eq_right floored, max_eq_right (by omega)]

theorem intPart_nonneg_iff (value : Rat) : 0 ≤ intPart value ↔ -1 < value := by
  rcases le_total 0 value with nonneg | nonpos
  · rw [intPart_of_nonneg nonneg]
    exact iff_of_true (Int.floor_nonneg.mpr nonneg) (by linarith)
  · have small : ⌊-value⌋ < 1 ↔ -value < (1 : Int) := Int.floor_lt
    rw [intPart_of_nonpos nonpos, ← neg_lt_neg_iff, neg_neg, ← Int.cast_one, ← small]
    omega

/-- Cut to integers and not below zero, two products agree when they reach the same positive ones. -/
theorem max_intPart_eq_iff (exact float : Rat) : max (intPart exact) 0 = intPart float ↔
    -1 < float ∧ ∀ n : Int, 0 < n → ((n : Rat) ≤ exact ↔ (n : Rat) ≤ float) := by
  rw [← intPart_nonneg_iff]
  constructor
  · intro same
    have nonneg : 0 ≤ intPart float := same ▸ le_max_right _ _
    refine ⟨nonneg, fun n positive => ?_⟩
    rw [← max_eq_left nonneg, max_intPart, max_intPart] at same
    rw [← Int.le_floor, ← Int.le_floor]
    omega
  · rintro ⟨nonneg, reach⟩
    rw [← max_eq_left nonneg, max_intPart, max_intPart]
    refine eq_of_forall_le_iff fun n => ?_
    rcases lt_or_ge 0 n with positive | low
    · rw [le_max_iff, le_max_iff, Int.le_floor, Int.le_floor, reach n positive]
    · exact iff_of_true (low.trans (le_max_right _ _)) (low.trans (le_max_right _ _))

theorem max_intPart_scaled_iff (amount : Int) (unit : Rat) :
    max (intPart (amount * unit)) 0 = amount ↔
      amount = 0 ∨ 0 < amount ∧ 1 ≤ unit ∧ (unit - 1) * amount < 1 := by
  rw [max_intPart]
  rcases lt_trichotomy amount 0 with negative | rfl | positive
  · omega
  · simp
  · have scale : (0 : Rat) < amount := mod_cast positive
    have floored : max ⌊amount * unit⌋ 0 = amount ↔ ⌊amount * unit⌋ = amount := by omega
    rw [floored, Int.floor_eq_iff]
    constructor
    · rintro ⟨least, less⟩
      exact .inr ⟨positive, by nlinarith, by linarith⟩
    · rintro (zero | ⟨-, least, less⟩)
      · omega
      · exact ⟨by nlinarith, by linarith⟩

def creemTopUp : TopUp := { stripeTopUp with amount := 7, paymentMethod := "creem", paymentProvider := .creem }

def gatewayStore (topUp : TopUp) : OrderStore :=
  { stripeStore fun _ => some ⟨"", "", "default"⟩ with topUps := Table.empty.insert topUp }

/-- The `Money` of a Stripe order: three times 0.83, in float64. -/
def roundedTopUp : TopUp := { stripeTopUp with money := float64Mul 3 (83 / 100) }

end NewApi.Proof
