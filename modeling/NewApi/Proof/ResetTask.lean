import Mathlib.Data.Finset.Card
import NewApi.Proof.Expiry
import NewApi.Service.SubscriptionResetTask

/-! # The subscription task comes to an end -/

namespace NewApi.Proof
open Library Common Model Service SubscriptionStore RowWrite Db Table List

def endedIds (now : Int) (store : SubscriptionStore) : Finset Int :=
    ((store.ended now).map UserSubscription.id).toFinset

def resetDueIds (now : Int) (store : SubscriptionStore) : Finset Int :=
  ((store.resetDue now).map UserSubscription.id).toFinset

def stuck (env : SubscriptionEnv) (now : Int) (store : SubscriptionStore) (sub : UserSubscription) : Bool :=
  match planOf env store sub.planId with
  | some plan => decide (resetOutcome env sub plan now = some none)
  | none => false

/-- A full batch of rows that a check leaves as they are. -/
def StuckBatch (env : SubscriptionEnv) (now : Int) (store : SubscriptionStore) : Prop :=
  (store.resetBatch now subscriptionResetBatchSize).length = subscriptionResetBatchSize ∧
    ∀ sub ∈ store.resetBatch now subscriptionResetBatchSize, stuck env now store sub = true

section Ids
variable {env : SubscriptionEnv} {now id : Int} {store : SubscriptionStore}

theorem mem_filteredIds (id : Int) (store : SubscriptionStore) (p : UserSubscription → Bool) :
    id ∈ ((store.subscriptions.rows.filter p).map UserSubscription.id).toFinset ↔
      ∃ sub, store.subscriptions.find? id = some sub ∧ p sub = true := by
  simp only [List.mem_toFinset, List.mem_map, List.mem_filter, find?_eq_some]
  constructor
  · rintro ⟨sub, ⟨mem, holds⟩, same⟩
    exact ⟨sub, ⟨mem, same⟩, holds⟩
  · rintro ⟨sub, ⟨mem, same⟩, holds⟩
    exact ⟨sub, ⟨mem, holds⟩, same⟩

theorem mem_endedIds : id ∈ endedIds now store ↔ ∃ sub, store.subscriptions.find? id = some sub ∧
    SubscriptionStore.Ended now sub := by
  simpa [endedIds, ended] using mem_filteredIds id store (fun sub => SubscriptionStore.Ended now sub)

theorem mem_resetDueIds : id ∈ resetDueIds now store ↔
    ∃ sub, store.subscriptions.find? id = some sub ∧ SubscriptionStore.ResetDue now sub ∧ sub.status = .active := by
  simpa [resetDueIds, resetDue] using mem_filteredIds id store
    (fun sub => SubscriptionStore.ResetDue now sub ∧ sub.status = .active)

end Ids

/-! ## Expiry -/

section Expire
variable {env : SubscriptionEnv} {now : Int} {before after : SubscriptionStore}

theorem expired_row {sub : UserSubscription} {writes : List RowWrite} (expires : ∀ write ∈ writes, write = .expire) :
    writes.foldl (apply env now) sub = sub ∨
      (writes.foldl (apply env now) sub = { sub with status := .expired } ∧ SubscriptionStore.Ended now sub) := by
  apply foldl_apply (fun row => row = sub ∨ (row = { sub with status := .expired } ∧ SubscriptionStore.Ended now sub))
  · intro _ write mem reached
    rw [expires write mem, apply]
    rcases reached with rfl | ⟨rfl, ended⟩
    · split_ifs with ended
      · exact .inr ⟨rfl, ended⟩
      · exact .inl rfl
    · rw [if_neg fun again => by cases again.1]
      exact .inr ⟨rfl, ended⟩
  · exact .inl rfl

section Expired
variable (evolved : Evolves env now (fun _ write => write = .expire) before after)

include evolved

theorem expired_find? {id : Int} {row : UserSubscription} (found : after.subscriptions.find? id = some row) :
    ∃ sub, before.subscriptions.find? id = some sub ∧
      (row = sub ∨ (row = { sub with status := .expired } ∧ SubscriptionStore.Ended now sub)) := by
  obtain ⟨_, expires, rows⟩ := evolved.rows id
  rw [found] at rows
  obtain ⟨sub, present, rfl⟩ := Option.map_eq_some_iff.mp rows.symm
  exact ⟨sub, present, expired_row expires⟩

theorem endedIds_expire : endedIds now after ⊆ endedIds now before := by
  intro _ mem
  obtain ⟨row, found, ended⟩ := mem_endedIds.mp mem
  obtain ⟨sub, present, rfl | ⟨rfl, past⟩⟩ := expired_find? evolved found
  · exact mem_endedIds.mpr ⟨row, present, ended⟩
  · exact mem_endedIds.mpr ⟨sub, present, past⟩

theorem resetDueIds_expire : resetDueIds now after ⊆ resetDueIds now before := by
  intro _ mem
  obtain ⟨row, found, due, active⟩ := mem_resetDueIds.mp mem
  obtain ⟨_, present, rfl | ⟨rfl, -⟩⟩ := expired_find? evolved found
  · exact mem_resetDueIds.mpr ⟨row, present, due, active⟩
  · cases active

end Expired

variable {count : Nat}

theorem expireUserTx_shrinks {userId faults store after}
    (ran : expireUserTx userId now faults store = (.ok count, after)) (changed : 0 < count) :
    ∃ id ∈ endedIds now store.subscriptions, id ∉ endedIds now after.subscriptions := by
  obtain ⟨rfl, _, rfl, -⟩ := expireUserTx_ok ran
  obtain ⟨sub, mem⟩ := exists_mem_of_length_pos changed
  obtain ⟨ended, own⟩ := mem_filter.mp mem
  obtain ⟨stored, past⟩ := List.mem_filter.mp ended
  simp only [decide_eq_true_eq] at own past
  refine ⟨sub.id, mem_endedIds.mpr ⟨sub, find?_eq_some.mpr ⟨stored, rfl⟩, past⟩, fun still => ?_⟩
  obtain ⟨row, found, again⟩ := mem_endedIds.mp still
  change (store.subscriptions.expireRows userId now).subscriptions.find? sub.id = some row at found
  rw [expireRows, find?_modify, find?_eq_some.mpr ⟨stored, rfl⟩] at found
  obtain rfl := Option.some.inj found
  rw [expireRow, if_pos ⟨own, past⟩] at again
  cases again.1

theorem expireUsers_shrinks (env : SubscriptionEnv) (users : List Int) {faults store after}
    (ran : expireUsers now users faults store = (.ok count, after)) (changed : 0 < count) :
    ∃ id ∈ endedIds now store.subscriptions, id ∉ endedIds now after.subscriptions := by
  induction users generalizing store count with
  | nil =>
    cases (pure_eq.mp ran).1
    cases changed
  | cons userId rest ih =>
    obtain ⟨affected, middle, begun, cont⟩ := bind_eq_ok.mp ran
    obtain ⟨_, _, ended, ret⟩ := bind_eq_ok.mp cont
    obtain ⟨rfl, rfl⟩ := pure_eq_ok.mp ret
    have expires : ∀ users, Db.Relates (StoreEvolves env now fun _ write => write = .expire)
      (expireUsers now users) := by
      intro _
      apply expireUsers_evolves
      exact fun id => rfl
    obtain ⟨-, -, body⟩ := transaction_eq_ok.mp begun
    have later : endedIds now after.subscriptions ⊆ endedIds now middle.subscriptions :=
      endedIds_expire (expires rest _ _ _ _ ended)
    by_cases here : 0 < affected
    · obtain ⟨id, present, gone⟩ := expireUserTx_shrinks body here
      exact ⟨id, present, fun still => gone (later still)⟩
    · obtain ⟨id, present, gone⟩ := ih ended (by omega)
      have whole : expireUsers now [userId] faults store = (.ok affected, middle) :=
        bind_eq_ok.mpr ⟨affected, middle, begun, rfl⟩
      exact ⟨id, endedIds_expire (expires [userId] _ _ _ _ whole) present, gone⟩

theorem expireDue_shrinks (env : SubscriptionEnv) {order limit faults store after}
    (ran : expireDueSubscriptions order limit now faults store = (.ok count, after)) (changed : 0 < count) :
    endedIds now after.subscriptions ⊂ endedIds now store.subscriptions := by
  have expires : Db.Relates (StoreEvolves env now fun _ write => write = .expire)
    (expireDueSubscriptions order limit now) := by
    apply expireDue_evolves
    exact fun _ => rfl
  obtain ⟨_, _, looking, cont⟩ := bind_eq_ok.mp ran
  obtain ⟨-, -, rfl⟩ := query_eq_ok.mp looking
  obtain ⟨_, present, gone⟩ := expireUsers_shrinks env _ cont changed
  refine Finset.ssubset_iff_subset_ne.mpr ⟨endedIds_expire (expires _ _ _ _ ran), fun same => ?_⟩
  rw [same] at gone
  exact gone present

end Expire

/-! ## Resets -/

section Reset
variable {env : SubscriptionEnv} {now : Int} {store after : SubscriptionStore} {sub row : UserSubscription}
  {plan : SubscriptionPlan}

theorem catchUp_ends {loc endTime} (fuel : Nat) {base next last following}
    (ended : catchUp loc plan endTime now fuel base next = some (last, following)) :
    ¬(0 < following ∧ following ≤ now) := by
  induction fuel generalizing base next with
  | zero =>
    unfold catchUp at ended
    split_ifs at ended with passed
    cases ended
    exact passed
  | succ _ ih =>
    unfold catchUp at ended
    split_ifs at ended with passed
    · exact ih ended
    · cases ended
      exact passed

theorem resetOutcome_moves (due : SubscriptionStore.ResetDue now sub)
    (written : resetOutcome env sub plan now = some (some row)) : ¬SubscriptionStore.ResetDue now row := by
  unfold resetOutcome at written
  rw [if_neg fun future => absurd due.2 (not_le.mpr future.2)] at written
  split_ifs at written with never
  · simp at written
  · obtain ⟨⟨_, _⟩, caught, wrote⟩ := Option.map_eq_some_iff.mp written
    have past := catchUp_ends _ caught
    unfold resetRow at wrote
    split_ifs at wrote with passed unset
    · rw [← Option.some.inj wrote]
      exact past
    · exact absurd unset.1 due.1.ne'

structure Checked (env : SubscriptionEnv) (now : Int) (subs : List UserSubscription)
    (before after : SubscriptionStore) :
    Prop where
  plans : after.plans = before.plans
  due : resetDueIds now after ⊆ resetDueIds now before
  moved : ∀ sub ∈ subs, stuck env now before sub = false → sub.id ∉ resetDueIds now after

theorem checked_row (found : store.subscriptions.find? sub.id = some sub) (due : SubscriptionStore.ResetDue now sub)
    (planned : planOf env store sub.planId = some plan) (ends : resetOutcome env sub plan now ≠ none) :
    Checked env now [sub] store (store.saveSubscription ((check plan).apply env now sub)) := by
  rcases outcome : resetOutcome env sub plan now with _ | _ | row
  · exact absurd outcome ends
  · have unchanged : store.saveSubscription ((check plan).apply env now sub) = store := by
      simp only [apply, outcome, Option.getD_some, Option.getD_none]
      rw [saveSubscription, save_self (find?_eq_some.mp found).1]
    rw [unchanged]
    refine ⟨rfl, Finset.Subset.refl _, fun other only free => ?_⟩
    rw [mem_singleton.mp only] at free
    simp [stuck, planned, outcome] at free
  · have applied : (check plan).apply env now sub = row := by
      simp only [apply, outcome, Option.getD_some]
    have same : row.id = sub.id := applied ▸ apply_id env now sub (.check plan)
    have moved := resetOutcome_moves due outcome
    rw [applied]
    have others : ∀ id other, (store.saveSubscription row).subscriptions.find? id = some other →
        SubscriptionStore.ResetDue now other → id ≠ sub.id ∧ store.subscriptions.find? id = some other := by
      intro id other stored dueOther
      rw [saveSubscription, find?_save_of_some found same] at stored
      split_ifs at stored with own
      · cases stored
        exact absurd dueOther moved
      · exact ⟨own, stored⟩
    refine ⟨rfl, fun id mem => ?_, fun other only _ mem => ?_⟩
    · obtain ⟨other, stored, dueOther, active⟩ := mem_resetDueIds.mp mem
      exact mem_resetDueIds.mpr ⟨other, (others id other stored dueOther).2, dueOther, active⟩
    · obtain ⟨other, stored, dueOther, -⟩ := mem_resetDueIds.mp mem
      rw [mem_singleton.mp only] at stored
      exact (others sub.id other stored dueOther).1 rfl

theorem checked_cons {middle rest} (first : Checked env now [sub] store middle)
    (second : Checked env now rest middle after) : Checked env now (sub :: rest) store after where
  plans := second.plans.trans first.plans
  due := second.due.trans first.due
  moved other mem free := by
    rcases mem_cons.mp mem with rfl | later
    · exact fun still => first.moved other (by simp) free (second.due still)
    · apply second.moved other later
      rwa [stuck, planOf, first.plans]

theorem checked_none (store) : Checked env now [] store store :=
  ⟨rfl, Finset.Subset.refl _, fun _ mem => by cases mem⟩

theorem resetDueRows_ok (subs) (current : Current store subs) {faults count}
    (ran : resetDueRows env now subs faults store = (.ok count, after)) :
    Checked env now [] store after ∧ count ≤ subs.length ∧
      (count = subs.length → Checked env now subs store after) := by
  induction subs generalizing store count with
  | nil =>
    obtain ⟨rfl, rfl⟩ := pure_eq_ok.mp ran
    exact ⟨checked_none _, le_rfl, fun _ => checked_none _⟩
  | cons sub _ ih =>
    obtain ⟨first, _, begun, cont⟩ := bind_eq_ok.mp ran
    obtain ⟨_, _, ended, ret⟩ := bind_eq_ok.mp cont
    obtain ⟨rfl, rfl⟩ := pure_eq_ok.mp ret
    rcases resetDueRow_cases begun with ⟨rfl, none⟩ | ⟨_, row, one, planned, found, due, ends, rfl⟩
    · have zero := none first rfl
      obtain ⟨kept, _, -⟩ := ih ⟨(nodup_cons.mp current.distinct).2, fun other mem =>
        current.stored other (by simp [mem])⟩ ended
      exact ⟨kept, by simp only [length_cons]; omega, fun full => by simp only [length_cons] at full; omega⟩
    · obtain rfl : sub = row := Option.mem_unique (current.stored sub (by simp)) found
      cases one
      have here := checked_row found due planned ends
      obtain ⟨kept, _, all⟩ := ih (current_save current (apply_id _ _ _ _)) ended
      refine ⟨⟨kept.plans.trans here.plans, kept.due.trans here.due, by simp⟩, ?_, ?_⟩
      · simp only [length_cons]
        omega
      · intro full
        simp only [length_cons] at full
        exact checked_cons here (all (by omega))

theorem current_resetBatch (store) (now limit : Int) : Current store (store.resetBatch now limit) := by
  have sorted := perm_insertionSort resetsBefore (store.resetDue now)
  apply current_of_rows
  · refine List.Nodup.sublist ((take_sublist _ _).map _) ((sorted.map _).nodup_iff.mpr ?_)
    exact store.subscriptions.unique.sublist (filter_sublist.map _)
  · exact fun _ mem => mem_of_mem_filter (sorted.mem_iff.mp (mem_of_mem_take mem))

theorem resetDue_kept {limit faults count}
    (ran : resetDueSubscriptions env limit now faults store = (.ok count, after)) :
    resetDueIds now after ⊆ resetDueIds now store := by
  obtain ⟨_, looked, looking, cont⟩ := bind_eq_ok.mp ran
  obtain ⟨-, rfl, rfl⟩ := query_eq_ok.mp looking
  exact (resetDueRows_ok _ (current_resetBatch looked now limit) cont).1.due

theorem resetDue_shrinks (moves : ¬StuckBatch env now store) {faults count}
    (ran : resetDueSubscriptions env subscriptionResetBatchSize now faults store = (.ok count, after))
    (full : subscriptionResetBatchSize ≤ count) : resetDueIds now after ⊂ resetDueIds now store := by
  obtain ⟨_, looked, looking, cont⟩ := bind_eq_ok.mp ran
  obtain ⟨-, rfl, rfl⟩ := query_eq_ok.mp looking
  have current := current_resetBatch looked now subscriptionResetBatchSize
  obtain ⟨-, handled, all⟩ := resetDueRows_ok _ current cont
  have size : (looked.resetBatch now subscriptionResetBatchSize).length ≤ subscriptionResetBatchSize :=
    length_take_le _ _
  have checked := all (by omega)
  have free : ∃ sub ∈ looked.resetBatch now subscriptionResetBatchSize, stuck env now looked sub = false := by
    by_contra none
    exact moves ⟨by omega, fun sub chosen => by_contra fun free => none ⟨sub, chosen, by simpa using free⟩⟩
  obtain ⟨sub, chosen, free⟩ := free
  have due := (List.mem_filter.mp ((List.mem_insertionSort _).mp (List.mem_of_mem_take chosen))).2
  refine Finset.ssubset_iff_subset_ne.mpr ⟨checked.due, fun same => ?_⟩
  apply checked.moved sub chosen free
  rw [same]
  exact mem_resetDueIds.mpr ⟨sub, current.stored sub chosen, by simpa using due⟩

end Reset

/-! ## The loops -/

section Loops
variable {faults : Faults ResetTaskStatement String}

/-- A loop ends whose full rounds make a measure smaller. `holds` goes from round to round, `done` is
what a short one leaves. -/
theorem batches_finish {call} (holds : Nat → OrderStore → Prop) (done : OrderStore → Prop)
    (measure : OrderStore → Nat)
    (shortDone : ∀ round store n after, holds round store → call round faults store = (.ok n, after) →
      n < subscriptionResetBatchSize → done after)
    (shrinks : ∀ round store n after, holds round store → call round faults store = (.ok n, after) →
      subscriptionResetBatchSize ≤ n → holds (round + 1) after ∧ measure after < measure store)
    (fuel round : Nat) {store after} (init : holds round store) (enough : measure store < fuel)
    {result} (ran : batches call fuel round faults store = (result, after)) :
    (∃ total, result = .ok (some total) ∧ done after) ∨ (∃ reason, result = .error (.error reason)) ∨
      ∃ round reached stopped, holds round reached ∧
        call round faults reached = (.error .diverges, stopped) := by
  induction fuel generalizing round store result after with
  | zero => omega
  | succ fuel ih =>
    rcases called : call round faults store with ⟨outcome, middle⟩
    cases outcome with
    | error halt =>
      rw [batches, bind_apply, called] at ran
      cases ran
      cases halt with
      | error reason => exact .inr (.inl ⟨reason, rfl⟩)
      | diverges => exact .inr (.inr ⟨round, store, _, init, called⟩)
    | ok n =>
      rw [batches, bind_of_ok called] at ran
      split_ifs at ran with nothing short
      · obtain ⟨rfl, rfl⟩ := pure_eq.mp ran
        exact .inl ⟨0, rfl, shortDone round store n _ init called (by simp [nothing, subscriptionResetBatchSize])⟩
      · obtain ⟨rfl, rfl⟩ := pure_eq.mp ran
        exact .inl ⟨n, rfl, shortDone round store n _ init called short⟩
      · rcases looped : batches call fuel (round + 1) faults middle with ⟨_, _⟩
        obtain ⟨kept, less⟩ := shrinks round store n middle init called (not_lt.mp short)
        rcases ih (round + 1) kept (by omega) looped with ⟨total, rfl, kept⟩ | ⟨reason, rfl⟩ | diverges
        · rw [bind_of_ok looped] at ran
          obtain ⟨rfl, rfl⟩ := pure_eq.mp ran
          exact .inl ⟨n + total, rfl, kept⟩
        · rw [bind_apply, looped] at ran
          cases ran
          exact .inr (.inl ⟨reason, rfl⟩)
        · exact .inr (.inr diverges)

theorem batches_short {call round n store after} (ran : call round faults store = (.ok n, after))
    (short : n < subscriptionResetBatchSize) (fuel : Nat) :
    ∃ total, batches call (fuel + 1) round faults store = (.ok (some total), after) := by
  rw [batches, bind_of_ok ran]
  split_ifs
  · exact ⟨0, rfl⟩
  · exact ⟨n, rfl⟩

theorem batches_full {call round n store after} (ran : call round faults store = (.ok n, after))
    (full : subscriptionResetBatchSize ≤ n) (fuel : Nat) :
    batches call (fuel + 1) round faults store =
      (batches call fuel (round + 1) >>= fun more => pure (more.map fun total => n + total)) faults after := by
  have handled : n ≠ 0 := by
    rw [subscriptionResetBatchSize] at full
    omega
  rw [batches, bind_of_ok ran, if_neg handled, if_neg (not_lt.mpr full)]

theorem batches_forever {call store n} (full : subscriptionResetBatchSize ≤ n)
    (again : ∀ round, call round faults store = (.ok n, store)) (fuel round : Nat) :
    batches call fuel round faults store = (.ok none, store) := by
  induction fuel generalizing round with
  | zero => rfl
  | succ _ ih =>
    rw [batches_full (again round) full, bind_of_ok (ih (round + 1))]
    rfl

end Loops

/-! ## The task -/

section Task
variable {env : SubscriptionEnv} {order : Nat → MapOrder} {now : Int}

theorem expireRound_shrinks (env) {faults round n store after}
    (ran : expireRound order now round faults store = (.ok n, after)) :
    StoreEvolves env now (fun _ write => write = .expire) store after ∧
      (subscriptionResetBatchSize ≤ n → endedIds now after.subscriptions ⊂ endedIds now store.subscriptions) := by
  rw [expireRound, within_apply] at ran
  constructor
  · have expires : Db.Relates (StoreEvolves env now fun _ write => write = .expire)
        (expireDueSubscriptions (order round) subscriptionResetBatchSize now) := by
      apply expireDue_evolves
      exact fun _ => rfl
    exact expires _ _ _ _ ran
  · intro full
    rw [subscriptionResetBatchSize] at full
    exact expireDue_shrinks env ran (by omega)

theorem resetRound_kept {faults round n store after}
    (ran : resetRound env now round faults store = (.ok n, after)) :
    resetDueIds now after.subscriptions ⊆ resetDueIds now store.subscriptions := by
  obtain ⟨_, inner, rfl⟩ := zoom_eq.mp ran
  rw [within_apply] at inner
  exact resetDue_kept inner

theorem resetRound_shrinks {faults round n store after} (moves : ¬StuckBatch env now store.subscriptions)
    (ran : resetRound env now round faults store = (.ok n, after)) (full : subscriptionResetBatchSize ≤ n) :
    resetDueIds now after.subscriptions ⊂ resetDueIds now store.subscriptions := by
  obtain ⟨_, inner, rfl⟩ := zoom_eq.mp ran
  rw [within_apply] at inner
  exact resetDue_shrinks moves inner full

/-- The stores before the rounds of a run: of the loop that expires, then of the one that resets. -/
inductive TaskReached (env : SubscriptionEnv) (order : Nat → MapOrder) (now : Int)
    (faults : Faults ResetTaskStatement String) (store : OrderStore) : (resetting : Bool) → Nat → OrderStore → Prop
  | start : TaskReached env order now faults store false 0 store
  | expired {round n before after} (reached : TaskReached env order now faults store false round before)
      (ran : expireRound order now round faults before = (.ok n, after))
      (full : subscriptionResetBatchSize ≤ n) :
      TaskReached env order now faults store false (round + 1) after
  | turned {round n before after} (reached : TaskReached env order now faults store false round before)
      (ran : expireRound order now round faults before = (.ok n, after))
      (short : n < subscriptionResetBatchSize) : TaskReached env order now faults store true 0 after
  | reset {round n before after} (reached : TaskReached env order now faults store true round before)
      (ran : resetRound env now round faults before = (.ok n, after))
      (full : subscriptionResetBatchSize ≤ n) :
      TaskReached env order now faults store true (round + 1) after

def CallDiverges (env : SubscriptionEnv) (order : Nat → MapOrder) (now : Int)
    (faults : Faults ResetTaskStatement String) (store : OrderStore) : Prop :=
  ∃ resetting round reached, TaskReached env order now faults store resetting round reached ∧
    ∃ stopped, expireRound order now round faults reached = (.error .diverges, stopped) ∨
      resetRound env now round faults reached = (.error .diverges, stopped)

/-- No round of the second loop finds a full batch of stuck rows. -/
def BatchesMove (env : SubscriptionEnv) (order : Nat → MapOrder) (now : Int)
    (faults : Faults ResetTaskStatement String) (store : OrderStore) : Prop :=
  ∀ round reached, TaskReached env order now faults store true round reached →
    ¬StuckBatch env now reached.subscriptions

theorem taskReached_due {faults store resetting round reached}
    (reaches : TaskReached env order now faults store resetting round reached) :
    resetDueIds now reached.subscriptions ⊆ resetDueIds now store.subscriptions := by
  induction reaches with
  | start => exact Finset.Subset.refl _
  | expired _ ran _ ih => exact (resetDueIds_expire (expireRound_shrinks env ran).1).trans ih
  | turned _ ran _ ih => exact (resetDueIds_expire (expireRound_shrinks env ran).1).trans ih
  | reset _ ran _ ih => exact (resetRound_kept ran).trans ih

theorem cleanup_returns (cleanupDue : Bool) (old : SubscriptionPreConsumeRecord → Bool) (faults store) :
    ∃ after, cleanup cleanupDue old faults store = (.ok (), after) := by
  unfold cleanup
  split_ifs
  · obtain ⟨outcome, after, ran⟩ := attempt_returns (terminates_statement _ _ : Db.Terminates
      (execute ResetTaskStatement.cleanup (cleanupSubscriptionPreConsumeRecords old) : ResetTaskDb Unit)) faults store
    exact ⟨after, bind_eq_ok.mpr ⟨outcome, after, ran, rfl⟩⟩
  · exact ⟨store, rfl⟩

section Halves
variable {store reached : OrderStore} {fuel : Nat} {faults : Faults ResetTaskStatement String}

theorem expires_end (env : SubscriptionEnv) (enough : (endedIds now store.subscriptions).card < fuel) :
    (∃ outcome after, attempt (batches (expireRound order now) fuel 0) faults store = (.ok outcome, after) ∧
      outcome ≠ .ok none ∧
      ∀ total, outcome = .ok (some total) → TaskReached env order now faults store true 0 after) ∨
        CallDiverges env order now faults store := by
  rcases ran : batches (expireRound order now) fuel 0 faults store with ⟨_, after⟩
  rcases batches_finish (TaskReached env order now faults store false)
      (TaskReached env order now faults store true 0) (fun reached => (endedIds now reached.subscriptions).card)
      (fun _ _ _ _ reached ran short => .turned reached ran short)
      (fun _ _ _ _ reached ran full =>
        ⟨.expired reached ran full, Finset.card_lt_card ((expireRound_shrinks env ran).2 full)⟩)
      fuel 0 .start enough ran with
    ⟨total, rfl, kept⟩ | ⟨reason, rfl⟩ | ⟨round, reached, stopped, before, diverges⟩
  · exact .inl ⟨_, _, attempt_eq_ok.mpr (.inl ⟨_, rfl, ran⟩), by simp, fun _ _ => kept⟩
  · exact .inl ⟨_, _, attempt_eq_ok.mpr (.inr ⟨_, rfl, ran⟩), by simp, by simp⟩
  · exact .inr ⟨_, round, reached, before, stopped, .inl diverges⟩

theorem resets_end (moves : BatchesMove env order now faults store)
    (turned : TaskReached env order now faults store true 0 reached)
    (enough : (resetDueIds now store.subscriptions).card < fuel) :
    (∃ outcome after, attempt (batches (resetRound env now) fuel 0) faults reached = (.ok outcome, after) ∧
      outcome ≠ .ok none) ∨ CallDiverges env order now faults store := by
  rcases ran : batches (resetRound env now) fuel 0 faults reached with ⟨_, after⟩
  rcases batches_finish (TaskReached env order now faults store true) (fun _ => True)
      (fun reached => (resetDueIds now reached.subscriptions).card) (fun _ _ _ _ _ _ _ => trivial)
      (fun round _ _ _ reached ran full => ⟨.reset reached ran full,
        Finset.card_lt_card (resetRound_shrinks (moves round _ reached) ran full)⟩)
      fuel 0 turned ((Finset.card_le_card (taskReached_due turned)).trans_lt enough) ran with
    ⟨total, rfl, -⟩ | ⟨reason, rfl⟩ | ⟨round, reached, stopped, before, diverges⟩
  · exact .inl ⟨_, _, attempt_eq_ok.mpr (.inl ⟨_, rfl, ran⟩), by simp⟩
  · exact .inl ⟨_, _, attempt_eq_ok.mpr (.inr ⟨_, rfl, ran⟩), by simp⟩
  · exact .inr ⟨_, round, reached, before, stopped, .inr diverges⟩

end Halves

theorem task_ends (running cleanupDue : Bool) (old : SubscriptionPreConsumeRecord → Bool) {store fuel}
    (enough : (endedIds now store.subscriptions).card < fuel ∧
      (resetDueIds now store.subscriptions).card < fuel) {faults}
    (moves : BatchesMove env order now faults store) :
    (∃ totals after, runSubscriptionQuotaResetOnce env order now running cleanupDue old fuel faults store =
      (.ok (some totals), after)) ∨ CallDiverges env order now faults store := by
  unfold runSubscriptionQuotaResetOnce
  split_ifs with busy
  · exact .inl ⟨_, _, rfl⟩
  · rcases expires_end env enough.1 with ⟨outcome, expired, expiring, finished, kept⟩ | diverges
    · rw [bind_of_ok expiring]
      match outcome, finished, kept with
      | .error reason, _, _ => exact .inl ⟨_, _, rfl⟩
      | .ok none, finished, _ => exact absurd rfl finished
      | .ok (some totalExpired), _, kept =>
        rcases resets_end moves (kept totalExpired rfl) enough.2 with
          ⟨outcome, last, resetting, finished⟩ | diverges
        · dsimp only
          rw [bind_of_ok resetting]
          match outcome, finished with
          | .error reason, _ => exact .inl ⟨_, _, rfl⟩
          | .ok none, finished => exact absurd rfl finished
          | .ok (some totalReset), _ =>
            obtain ⟨after, cleaned⟩ := cleanup_returns cleanupDue old faults last
            exact .inl ⟨_, _, bind_eq_ok.mpr ⟨(), after, cleaned, rfl⟩⟩
        · exact .inr diverges
    · exact .inr diverges

end Task

/-! ## Rows that are never done -/

section Forever
variable {env : SubscriptionEnv} {now : Int}

theorem resetDueRow_stuck {store sub faults}
    (noFault : ∀ label, faults label = none) (found : store.subscriptions.find? sub.id = some sub)
    (due : SubscriptionStore.ResetDue now sub) (still : stuck env now store sub = true) :
    resetDueRow env now sub faults store = (.ok 1, store) := by
  unfold stuck at still
  cases planned : planOf env store sub.planId with
  | none => simp [planned] at still
  | some plan =>
    have outcome : resetOutcome env sub plan now = some none := by simpa [planned] using still
    have looked : (getSubscriptionPlanById env sub.planId).within
      (fun _ => ResetDueStatement.plan sub.id) faults store =
        (.ok plan, store) := getSubscriptionPlanById_runs planned (noFault _)
    rw [resetDueRow, bind_of_ok (attempt_eq_ok.mpr (.inl ⟨plan, rfl, looked⟩))]
    refine transaction_eq_ok.mpr ⟨noFault _, noFault _, ?_⟩
    rw [bind_of_ok (attempt_query (noFault _)), found]
    simp only [Option.filter_some, decide_eq_true due, if_true]
    refine bind_eq_ok.mpr ⟨sub, store, ?_, rfl⟩
    rw [within_apply, maybeResetUserSubscriptionWithPlanTx, outcome]
    rfl

theorem resetDueRows_stuck {store faults} (noFault : ∀ label, faults label = none) (subs)
    (all : ∀ sub ∈ subs, store.subscriptions.find? sub.id = some sub ∧ SubscriptionStore.ResetDue now sub ∧
      stuck env now store sub = true) : resetDueRows env now subs faults store = (.ok subs.length, store) := by
  induction subs with
  | nil => rfl
  | cons sub _ ih =>
    obtain ⟨found, due, still⟩ := all sub (by simp)
    have others := ih fun other mem => all other (by simp [mem])
    rw [resetDueRows, bind_of_ok (resetDueRow_stuck noFault found due still), bind_of_ok others, pure_apply,
      length_cons, Nat.add_comm]

theorem resetRound_stuck {store faults} (noFault : ∀ label, faults label = none)
    (stands : StuckBatch env now store.subscriptions) (round : Nat) :
    resetRound env now round faults store = (.ok subscriptionResetBatchSize, store) := by
  refine zoom_eq.mpr ⟨store.subscriptions, ?_, rfl⟩
  rw [within_apply, resetDueSubscriptions]
  refine bind_eq_ok.mpr ⟨_, store.subscriptions, query_eq_ok.mpr ⟨noFault _, rfl, rfl⟩, ?_⟩
  refine (resetDueRows_stuck (fun _ => noFault _) _ fun sub mem => ?_).trans (by rw [stands.1])
  have due := (List.mem_filter.mp ((mem_insertionSort _).mp (mem_of_mem_take mem))).2
  simp only [decide_eq_true_eq] at due
  exact ⟨(current_resetBatch _ _ _).stored sub mem, due.1, stands.2 sub mem⟩

/-- Whatever the rounds it is given, the run uses them up. -/
def NeverEnds (env : SubscriptionEnv) (order : Nat → MapOrder) (now : Int)
    (faults : Faults ResetTaskStatement String) : (resetting : Bool) → Nat → OrderStore → Prop
  | true, round, store => ∀ fuel, (batches (resetRound env now) fuel round faults store).1 = .ok none
  | false, round, store => ∀ fuel, (batches (expireRound order now) fuel round faults store).1 = .ok none ∨
      ∃ total after, batches (expireRound order now) fuel round faults store = (.ok (some total), after) ∧
        ∀ more, (batches (resetRound env now) more 0 faults after).1 = .ok none

theorem neverEnds_back {order store faults resetting round reached}
    (reaches : TaskReached env order now faults store resetting round reached)
    (never : NeverEnds env order now faults resetting round reached) :
    NeverEnds env order now faults false 0 store := by
  induction reaches with
  | start => exact never
  | expired _ ran full ih =>
    apply ih
    intro fuel
    cases fuel with
    | zero => exact .inl rfl
    | succ fuel =>
      rw [batches_full ran full]
      rcases looped : batches (expireRound order now) fuel _ faults _ with ⟨_, _⟩
      rcases never fuel with out | ⟨total, after, done, lost⟩
      · rw [looped] at out
        cases out
        exact .inl (by rw [bind_of_ok looped]; rfl)
      · rw [looped] at done
        cases done
        exact .inr ⟨_, _, bind_of_ok looped, lost⟩
  | turned _ ran short ih =>
    apply ih
    intro fuel
    cases fuel with
    | zero => exact .inl rfl
    | succ fuel =>
      obtain ⟨total, done⟩ := batches_short ran short fuel
      exact .inr ⟨total, _, done, never⟩
  | reset _ ran full ih =>
    apply ih
    intro fuel
    cases fuel with
    | zero => rfl
    | succ fuel =>
      have out := never fuel
      rw [batches_full ran full]
      rcases looped : batches (resetRound env now) fuel _ faults _ with ⟨_, _⟩
      rw [looped] at out
      cases out
      rw [bind_of_ok looped]
      rfl

theorem task_never_ends {order store faults} (noFault : ∀ label, faults label = none) {round reached}
    (reaches : TaskReached env order now faults store true round reached)
    (stands : StuckBatch env now reached.subscriptions)
    (cleanupDue : Bool) (old : SubscriptionPreConsumeRecord → Bool) (fuel : Nat) :
    (runSubscriptionQuotaResetOnce env order now false cleanupDue old fuel faults store).1 = .ok none := by
  have stays : NeverEnds env order now faults true round reached := fun fuel => by
    rw [batches_forever le_rfl (resetRound_stuck noFault stands)]
  rw [runSubscriptionQuotaResetOnce, if_neg Bool.false_ne_true]
  rcases expiring : batches (expireRound order now) fuel 0 faults store with ⟨_, expired⟩
  rcases neverEnds_back reaches stays fuel with out | ⟨total, after, done, lost⟩
  · rw [expiring] at out
    cases out
    rw [bind_of_ok (attempt_eq_ok.mpr (.inl ⟨_, rfl, expiring⟩))]
    rfl
  · rw [expiring] at done
    cases done
    rcases resetting : batches (resetRound env now) fuel 0 faults expired with ⟨_, last⟩
    have out := lost fuel
    rw [resetting] at out
    cases out
    rw [bind_of_ok (attempt_eq_ok.mpr (.inl ⟨_, rfl, expiring⟩))]
    dsimp only
    rw [bind_of_ok (attempt_eq_ok.mpr (.inl ⟨_, rfl, resetting⟩))]
    rfl

end Forever

/-- Unless a single call does, the run ends just if no round of the second loop finds a full batch of
rows that stay as they are. -/
theorem resetTask_terminates_iff (env : SubscriptionEnv) (order : Nat → MapOrder) (now : Int) (cleanupDue : Bool)
    (old : SubscriptionPreConsumeRecord → Bool) (store : OrderStore) :
    (∃ fuel, ∀ running faults, BatchesMove env order now faults store →
      (∃ totals after, runSubscriptionQuotaResetOnce env order now running cleanupDue old fuel faults store =
        (.ok (some totals), after)) ∨ CallDiverges env order now faults store) ∧
    (∀ faults resetting round reached n after, BatchesMove env order now faults store →
      TaskReached env order now faults store resetting round reached → subscriptionResetBatchSize ≤ n →
      if resetting then resetRound env now round faults reached = (.ok n, after) →
        resetDueIds now after.subscriptions ⊂ resetDueIds now reached.subscriptions
      else expireRound order now round faults reached = (.ok n, after) →
        endedIds now after.subscriptions ⊂ endedIds now reached.subscriptions) ∧
    ∀ faults, (∀ label, faults label = none) → ¬BatchesMove env order now faults store →
      (∀ fuel, (runSubscriptionQuotaResetOnce env order now false cleanupDue old fuel faults store).1 =
        .ok none) ∧
      ∃ round reached, TaskReached env order now faults store true round reached ∧
        resetRound env now round faults reached = (.ok subscriptionResetBatchSize, reached) := by
  refine ⟨⟨(endedIds now store.subscriptions).card + (resetDueIds now store.subscriptions).card + 1,
    fun running faults moves => ?_⟩, fun _ resetting round _ n _ moves reached full =>
      ?_, fun faults noFault stays => ?_⟩
  · exact task_ends running cleanupDue old (by omega) moves
  · cases resetting with
    | true => exact fun ran => resetRound_shrinks (moves round _ reached) ran full
    | false => exact fun ran => (expireRound_shrinks env ran).2 full
  · unfold BatchesMove at stays
    push Not at stays
    obtain ⟨round, reached, reaches, stands⟩ := stays
    exact ⟨task_never_ends noFault reaches stands cleanupDue old,
      round, reached, reaches, resetRound_stuck noFault stands round⟩

/-! Three hundred subscriptions of a plan edited from a daily reset to none. -/

def editedPlan : SubscriptionPlan where
  id := 1
  title := "edited"
  quotaResetPeriod := "never"

def waitingRow (id : Int) : UserSubscription where
  id := id
  userId := 1
  planId := 1
  amountTotal := 100
  amountUsed := 100
  startTime := 10
  endTime := 10000
  status := .active
  lastResetTime := 10
  nextResetTime := 50
  allowWalletOverflow := true

def waitingRows (count : Nat) : Table UserSubscription.id where
  rows := (range count).map fun n : Nat => waitingRow (n + 1)
  unique := by
    rw [List.map_map]
    refine nodup_range.map fun a b same => ?_
    have ids : (a : Int) + 1 = b + 1 := same
    omega

def waitingStore (count : Nat) : OrderStore where
  accounts := ⟨fun _ => 0, fun _ => 0, fun _ => ⟨0, 0⟩, fun _ => 0, fun _ => none⟩
  users := fun _ => some ⟨"", "", "default"⟩
  subscriptions := ⟨⟨[editedPlan], by decide⟩, waitingRows count, empty⟩
  topUps := empty
  orders := empty

def utcEnv : SubscriptionEnv := ⟨utc, fun _ => none, fun _ => none, 10⟩

theorem waitingStore_due (count : Nat) : (waitingStore count).subscriptions.resetDue 100 =
    (waitingRows count).rows := by
  apply filter_eq_self.mpr
  intro _ mem
  obtain ⟨_, -, rfl⟩ := mem_map.mp mem
  rfl

theorem waitingStore_stuck (count : Nat) :
    ∀ sub ∈ (waitingStore count).subscriptions.resetDue 100,
      stuck utcEnv 100 (waitingStore count).subscriptions sub = true := by
  intro _ mem
  rw [waitingStore_due] at mem
  obtain ⟨_, -, rfl⟩ := mem_map.mp mem
  rfl

abbrev inOrder : Nat → MapOrder := fun _ => ⟨id, List.Perm.refl⟩

theorem few_move {store : OrderStore} {order faults} (few : (resetDueIds 100 store.subscriptions).card < 300) :
    BatchesMove utcEnv order 100 faults store := by
  intro _ reached reaches stands
  have current := current_resetBatch reached.subscriptions 100 subscriptionResetBatchSize
  have due : ((reached.subscriptions.resetBatch 100 subscriptionResetBatchSize).map UserSubscription.id).toFinset ⊆
      resetDueIds 100 store.subscriptions := by
    refine Finset.Subset.trans (fun _ mem => ?_) (taskReached_due reaches)
    obtain ⟨sub, chosen, rfl⟩ := mem_map.mp (mem_toFinset.mp mem)
    exact mem_toFinset.mpr (mem_map.mpr ⟨sub, (mem_insertionSort _).mp (mem_of_mem_take chosen), rfl⟩)
  have card := Finset.card_le_card due
  rw [toFinset_card_of_nodup current.distinct, length_map, stands.1] at card
  exact absurd few (not_lt.mpr card)

theorem resetTask_terminates_waiting :
    ∃ fuel, (∃ totals after, runSubscriptionQuotaResetOnce utcEnv inOrder 100 false true (fun _ => false) fuel
      (fun _ => none) (waitingStore 2) = (.ok (some totals), after)) ∨
        CallDiverges utcEnv inOrder 100 (fun _ => none) (waitingStore 2) := by
  obtain ⟨fuel, ends⟩ := (resetTask_terminates_iff utcEnv inOrder 100 true (fun _ => false) (waitingStore 2)).1
  exact ⟨fuel, ends false _ (few_move (by decide +kernel))⟩

theorem resetTask_loops : ¬∃ fuel, (runSubscriptionQuotaResetOnce utcEnv inOrder 100 false true
    (fun _ => false) fuel (fun _ => none) (waitingStore 300)).1 ≠ .ok none := by
  rintro ⟨fuel, ended⟩
  have unended : (waitingStore 300).subscriptions.ended 100 = [] := by
    apply filter_eq_nil_iff.mpr
    intro _ mem
    obtain ⟨_, -, rfl⟩ := mem_map.mp mem
    simp [SubscriptionStore.Ended, waitingRow]
  have turned : TaskReached utcEnv inOrder 100 (fun _ => none) (waitingStore 300) true 0 (waitingStore 300) := by
    refine TaskReached.turned (n := 0) .start ?_ (by decide)
    rw [expireRound, within_apply, expireDueSubscriptions]
    refine bind_eq_ok.mpr ⟨[], _, query_eq_ok.mpr ⟨rfl, ?_, rfl⟩, rfl⟩
    simp [endedBatch, unended]
  refine ended (task_never_ends (fun _ => rfl) turned ⟨?_, fun sub mem => ?_⟩ true _ fuel)
  · rw [resetBatch, length_take, length_insertionSort, waitingStore_due]
    simp [waitingRows, batchLimit, subscriptionResetBatchSize]
  · exact waitingStore_stuck 300 sub ((mem_insertionSort _).mp (mem_of_mem_take mem))

end NewApi.Proof
