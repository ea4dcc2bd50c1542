import NewApi.Library.Ledger
import NewApi.Proof.RowHistory

/-! # What is used in a period -/

namespace NewApi.Proof
open Library Common Model Ledger

def resetsQuota (env : SubscriptionEnv) (now : Int) (sub : UserSubscription) (plan : SubscriptionPlan) : Bool :=
  let first := calcNextResetTime env.location (resetBase sub) plan sub.endTime
  (resetOutcome env sub plan now).join.isSome && decide (0 < first ∧ first ≤ now)

theorem check_used (env) (now : Int) (sub plan) : ((RowWrite.check plan).apply env now sub).amountUsed =
      if resetsQuota env now sub plan then 0 else sub.amountUsed := by
  rcases outcome : resetOutcome env sub plan now with _ | _ | row
  · simp [RowWrite.apply, resetsQuota, outcome]
  · simp [RowWrite.apply, resetsQuota, outcome]
  · simp only [RowWrite.apply, resetsQuota, outcome, Option.getD_some, Option.join_some,
      Option.isSome_some, Bool.true_and,
      decide_eq_true_eq]
    unfold resetOutcome at outcome
    split_ifs at outcome
    · simp at outcome
    · simp at outcome
    · obtain ⟨⟨_, _⟩, -, written⟩ := Option.map_eq_some_iff.mp outcome
      unfold resetRow at written
      split_ifs at written ⊢
      · rw [← Option.some.inj written]
      · rw [← Option.some.inj written]

structure Period where
  row : UserSubscription
  charges : Ledger String := []

namespace Period

def chargesAfter (env : SubscriptionEnv) (period : Period) (entry : RowEntry) : Ledger String :=
  match entry.write with
  | .check plan => if resetsQuota env entry.now period.row plan then [] else period.charges
  | .charge amount =>
    if 0 < amount ∧ (0 < period.row.amountTotal → period.row.amountUsed + amount ≤ period.row.amountTotal) then
      period.charges.post entry.request amount
    else period.charges
  | .adjust delta =>
    if 0 < period.row.amountTotal ∧ period.row.amountTotal < max 0 (period.row.amountUsed + delta) then period.charges
    else if 0 < delta ∨ entry.request ∈ period.charges.keys then period.charges.post entry.request delta
    else period.charges
  | .adminReset _ _ => []
  | .expire => period.charges
  | .cancel => period.charges

def step (env : SubscriptionEnv) (period : Period) (entry : RowEntry) : Period where
  row := entry.apply env period.row
  charges := period.chargesAfter env entry

def Covers (period : Period) (entry : RowEntry) : Prop :=
  ∀ delta, entry.write = .adjust delta → 0 ≤ period.charges.net entry.request + delta

structure Balanced (period : Period) : Prop where
  distinct : period.charges.keys.Nodup
  nonneg : period.charges.Nonneg
  used : period.row.amountUsed = period.charges.total

end Period

section Balance
variable {env : SubscriptionEnv} {period : Period} {entry : RowEntry}

theorem balanced_empty {row} (unused : row.amountUsed = 0) : Period.Balanced ⟨row, []⟩ where
  distinct := List.nodup_nil
  nonneg := by simp [Ledger.Nonneg]
  used := unused

theorem balanced_same {row} (balanced : period.Balanced) (same : row.amountUsed = period.row.amountUsed) :
    Period.Balanced ⟨row, period.charges⟩ where
  distinct := balanced.distinct
  nonneg := balanced.nonneg
  used := same.trans balanced.used

theorem balanced_post {row request delta} (balanced : period.Balanced)
    (covered : 0 ≤ period.charges.net request + delta) (changed : row.amountUsed =
    max 0 (period.row.amountUsed + delta)) :
    Period.Balanced ⟨row, period.charges.post request delta⟩ where
  distinct := nodup_keys_post balanced.distinct
  nonneg := nonneg_post balanced.nonneg covered
  used := by
    have remains := total_nonneg (nonneg_post balanced.nonneg covered)
    rw [total_post, ← balanced.used] at remains
    rw [total_post, changed, ← balanced.used, max_eq_right remains]

theorem balanced_step (balanced : period.Balanced) (covers : period.Covers entry) :
    (period.step env entry).Balanced := by
  rcases entry with ⟨now, request, write⟩
  have used_nonneg : 0 ≤ period.row.amountUsed := balanced.used ▸ total_nonneg balanced.nonneg
  simp only [Period.step, Period.chargesAfter, RowEntry.apply]
  cases write with
  | check plan =>
    have used := check_used env now period.row plan
    dsimp only
    split_ifs at used ⊢
    · exact balanced_empty used
    · exact balanced_same balanced used
  | charge amount =>
    simp only [RowWrite.apply]
    split_ifs with charged
    · have covered : 0 ≤ period.charges.net request := net_nonneg balanced.nonneg
      have grown : 0 ≤ period.row.amountUsed + amount := by omega
      exact balanced_post balanced (by omega) (max_eq_right grown).symm
    · exact balanced
  | adjust delta =>
    have covered : 0 ≤ period.charges.net request + delta := covers delta rfl
    simp only [RowWrite.apply]
    split_ifs with rejected known
    · exact balanced
    · exact balanced_post balanced covered rfl
    · rw [not_or] at known
      rw [net_of_not_mem known.2] at covered
      apply balanced_same balanced
      simp only [adjust]
      omega
  | adminReset =>
    apply balanced_empty
    simp only [RowWrite.apply, adminResetRow]
    split_ifs <;> rfl
  | expire =>
    apply balanced_same balanced
    simp only [RowWrite.apply]
    split_ifs <;> rfl
  | cancel => exact balanced_same balanced rfl

end Balance

theorem run_period_row (env) (entries : List RowEntry) (period) :
    (run (Period.step env) period entries).row = run (RowEntry.apply env) period.row entries := by
  induction entries generalizing period with
  | nil => rfl
  | cons _ _ ih => exact ih _

theorem period_accounting {env : OrderEnv} {state : SubscriptionState} {id : Int} {sub : UserSubscription}
    (found : state.row id = some sub) (unused : sub.amountUsed = 0) (calls : List SubscriptionCall)
    (kept : ∀ call ∈ calls, ∀ faults, call.event ≠ .delete id faults) :
    (∃ entries, Explains env id state calls entries) ∧
    ∀ entries, Explains env id state calls entries → Along
      (Period.step env.subscriptions) Period.Covers ⟨sub, []⟩ entries →
      let charges := (run (Period.step env.subscriptions) ⟨sub, []⟩ entries).charges
      charges.keys.Nodup ∧ ∃ row, (run (callStep env) state calls).row id = some row ∧
        row.amountUsed = charges.total := by
  refine ⟨explained calls kept found, ?_⟩
  intro entries explains covered
  have balanced : (run (Period.step env.subscriptions) ⟨sub, []⟩ entries).Balanced :=
    run_invariant (fun _ _ => balanced_step) (balanced_empty unused) covered
  refine ⟨balanced.distinct, _, explains_row explains found, ?_⟩
  rw [← balanced.used, run_period_row]

/-! A day with a quota of ten. -/

def dayRow (used : Int) : UserSubscription where
  id := 1
  userId := 1
  planId := 1
  amountTotal := 10
  amountUsed := used
  startTime := 1000
  endTime := 87400
  status := .active
  lastResetTime := 0
  nextResetTime := 0
  allowWalletOverflow := true
  source := .balance

def dayBought : SubscriptionState := run (SubscriptionState.step orderEnv) ⟨dayStore, 1000⟩
    [.purchase 1 dayPlan .balance fun _ => none]

def settledCalls : List SubscriptionCall :=
  [⟨.preConsume "request" 1 7 fun _ => none, ""⟩, ⟨.postConsume 1 (-3) fun _ => none, "request"⟩]

theorem period_accounting_settled : ∃ entries, Explains orderEnv 1 dayBought settledCalls entries ∧
    (run (callStep orderEnv) dayBought settledCalls).row 1 = some (dayRow 4) ∧
    (run (Period.step orderEnv.subscriptions) ⟨dayRow 0, []⟩ entries).charges.total = 4 := by
  have explains : Explains orderEnv 1 dayBought settledCalls
    [⟨1000, "request", .charge 7⟩, ⟨1000, "request", .adjust (-3)⟩] := by
    refine @Explains.cons _ _ _ _ _ [.charge 7] _ ?_ (by decide +kernel)
      (@Explains.cons _ _ _ _ _ [.adjust (-3)] _ ?_ (by decide +kernel) (.nil _))
    · simp [Writes]
    · simp [Writes]
  have covered : Along (Period.step orderEnv.subscriptions) Period.Covers ⟨dayRow 0, []⟩
      [⟨1000, "request", .charge 7⟩, ⟨1000, "request", .adjust (-3)⟩] := by
    refine ⟨?_, ?_, trivial⟩
    · rintro _ ⟨⟩
    · rintro _ ⟨⟩
      decide
  obtain ⟨-, row, found, used⟩ := (period_accounting (by decide +kernel) rfl settledCalls
    (by simp [settledCalls])).2 _ explains covered
  have reached : (run (callStep orderEnv) dayBought settledCalls).row 1 = some (dayRow 4) := by decide +kernel
  refine ⟨_, explains, reached, ?_⟩
  rw [← used, ← Option.mem_unique reached found]
  rfl

def lateRefund : List SubscriptionCall :=
  [⟨.preConsume "old" 1 10 fun _ => none, ""⟩, ⟨.adminResetUser 1 1 false fun _ => none, ""⟩,
    ⟨.preConsume "new" 1 5 fun _ => none, ""⟩, ⟨.refund "old" fun _ => none, ""⟩]

theorem late_refund_lowers_used : ∃ entries, Explains orderEnv 1 dayBought lateRefund entries ∧
    (run (Period.step orderEnv.subscriptions) ⟨dayRow 0, []⟩ entries).charges = [("new", 5)] ∧
    (run (callStep orderEnv) dayBought lateRefund).row 1 = some (dayRow 0) := by
  refine ⟨[⟨1000, "old", .charge 10⟩, ⟨1000, "", .adminReset dayPlan false⟩, ⟨1000, "new", .charge 5⟩,
    ⟨1000, "old", .adjust (-10)⟩], ?_, by decide +kernel, by decide +kernel⟩
  refine @Explains.cons _ _ _ _ _ [.charge 10] _ ?_ (by decide +kernel)
    (@Explains.cons _ _ _ _ _ [.adminReset dayPlan false] _ ?_ (by decide +kernel)
      (@Explains.cons _ _ _ _ _ [.charge 5] _ ?_ (by decide +kernel)
        (@Explains.cons _ _ _ _ _ [.adjust (-10)] _ ?_ (by decide +kernel) (.nil _))))
  · simp [Writes]
  · simp only [List.mem_singleton, forall_eq]
    exact ⟨dayRow 10, dayPlan, by decide +kernel, rfl, by decide +kernel, by decide +kernel, rfl, rfl⟩
  · simp [Writes]
  · simp only [List.mem_singleton, forall_eq]
    exact ⟨⟨"old", 1, 1, 10, .consumed⟩, by decide +kernel, rfl, rfl, rfl⟩

/-! ## Later versions of a subscription -/

/-- What was bought stays, and a subscription that has ended is not active again. -/
def Continues (sub row : UserSubscription) : Prop :=
  (∃ used last next ends status, row =
    { sub with amountUsed := used, lastResetTime := last, nextResetTime := next, endTime := ends, status := status }) ∧
  (row.status = .active → sub.status = .active)

theorem continues_apply {env sub row} (entry : RowEntry) (continues : Continues sub row) :
    Continues sub (entry.apply env row) := by
  obtain ⟨⟨_, _, _, _, _, rfl⟩, before⟩ := continues
  obtain ⟨used, last, next, ends, status, same⟩ := apply_frame env entry.now _ entry.write
  refine ⟨⟨used, last, next, ends, status, same⟩, fun active => before ?_⟩
  cases write : entry.write with simp only [RowEntry.apply, write, RowWrite.apply, adminResetRow] at active
  | check plan =>
    rcases outcome : resetOutcome env _ plan entry.now with _ | _ | row <;> rw [outcome] at active
    · exact active
    · exact active
    · obtain ⟨_, _, _, -, rfl⟩ := resetOutcome_row outcome
      exact active
  | charge | adjust | expire | adminReset => split_ifs at active <;> exact active
  | cancel => cases active

theorem subscription_continues {env : OrderEnv} {state : SubscriptionState} {id : Int} {sub : UserSubscription}
    (found : state.row id = some sub) (calls : List SubscriptionCall)
    (kept : ∀ call ∈ calls, ∀ faults, call.event ≠ .delete id faults) :
    ∃ row, (run (callStep env) state calls).row id = some row ∧ Continues sub row := by
  obtain ⟨entries, explains⟩ := explained calls kept found
  refine ⟨_, explains_row explains found, ?_⟩
  exact run_preserves (Continues sub) (fun _ => continues_apply) ⟨⟨_, _, _, _, _, rfl⟩, fun active => active⟩ entries

theorem cancelled_stays : let cancelled := dayBought.step orderEnv (.invalidate 1 fun _ => none)
    ∃ row, (run (callStep orderEnv) cancelled lateRefund).row 1 = some row ∧ row.status ≠ .active := by
  intro cancelled
  have found : cancelled.row 1 = some (cancelledRow (dayRow 0) 1000) := by decide +kernel
  obtain ⟨row, reached, -, ended⟩ := subscription_continues found lateRefund (by simp [lateRefund])
  exact ⟨row, reached, fun active => nomatch ended active⟩

end NewApi.Proof
