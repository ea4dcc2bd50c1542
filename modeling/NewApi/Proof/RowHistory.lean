import NewApi.Proof.Expiry

/-! # The history of one subscription -/

namespace NewApi.Proof
open Library Common Model

structure SubscriptionCall where
  event : SubscriptionEvent
  settles : String := ""

def SubscriptionCall.request (call : SubscriptionCall) : String :=
  match call.event with
  | .preConsume requestId _ _ _ => requestId
  | .refund requestId _ => requestId
  | _ => call.settles

structure RowEntry where
  now : Int
  request : String
  write : RowWrite

def RowEntry.apply (env : SubscriptionEnv) (sub : UserSubscription) (entry : RowEntry) : UserSubscription :=
  entry.write.apply env entry.now sub

def callStep (env : OrderEnv) (state : SubscriptionState) (call : SubscriptionCall) : SubscriptionState :=
  state.step env call.event

inductive Explains (env : OrderEnv) (id : Int) : SubscriptionState → List SubscriptionCall → List RowEntry → Prop
  | nil (state : SubscriptionState) : Explains env id state [] []
  | cons {state call calls} {writes : List RowWrite} {entries}
      (allowed : ∀ write ∈ writes, Writes env.subscriptions state call.event id write)
        (row : (callStep env state call).row id =
        (state.row id).map (writes.foldl (RowWrite.apply env.subscriptions state.now)))
      (rest : Explains env id (callStep env state call) calls entries) :
      Explains env id state (call :: calls) (writes.map (RowEntry.mk state.now call.request) ++ entries)

section History
variable {env : OrderEnv} {id : Int} {state : SubscriptionState} {sub : UserSubscription}

theorem purchase_row {userId plan source faults} (found : state.row id = some sub) :
    (state.step env (.purchase userId plan source faults)).row id = some sub := by
  refine purchase_subscriptions (fun store => store.subscriptions.find? id = some sub) found fun _ _ => ?_
  exact Table.find?_insert_of_some found

theorem delete_row {other faults} (apart : other ≠ id) (found : state.row id = some sub) :
    (state.step env (.delete other faults)).row id = some sub := by
  obtain ⟨mem, same⟩ := Table.find?_eq_some.mp found
  rw [SubscriptionState.row, SubscriptionState.step, SubscriptionState.onStore]
  rcases Db.relates_run (delete_rows other state.now) faults state.store with kept | deleted
  · rw [kept]
    exact found
  · rw [deleted]
    apply Table.find?_eq_some.mpr
    refine ⟨Table.mem_filter.mpr ⟨mem, ?_⟩, same⟩
    simpa [same] using apart.symm

theorem step_row (call) (kept : ∀ faults, call.event ≠ .delete id faults) (found : state.row id = some sub) :
    ∃ writes : List RowWrite, (∀ write ∈ writes, Writes env.subscriptions state call.event id
      write) ∧ (callStep env state call).row id =
        some (writes.foldl (RowWrite.apply env.subscriptions state.now) sub) := by
  rcases call with ⟨event, _⟩
  have evolved : (∀ userId plan source faults, event ≠ .purchase userId plan source faults) →
      (∀ other faults, event ≠ .delete other faults) →
      ∃ writes : List RowWrite, (∀ write ∈ writes, Writes env.subscriptions state event id write) ∧
        (state.step env event).row id = some (writes.foldl (RowWrite.apply env.subscriptions state.now) sub) := by
    intro unbought undeleted
    obtain ⟨writes, allowed, row⟩ := (step_evolves unbought undeleted).rows id
    refine ⟨writes, allowed, row.trans ?_⟩
    rw [show state.store.subscriptions.subscriptions.find? id = some sub from found]
    rfl
  cases event with
  | purchase => exact ⟨[], by simp, purchase_row found⟩
  | delete _ faults =>
    refine ⟨[], by simp, delete_row ?_ found⟩
    rintro rfl
    exact kept faults rfl
  | _ => exact evolved (by simp) (by simp)

theorem explained (calls) (kept : ∀ call ∈ calls, ∀ faults, call.event ≠ .delete id faults)
    (found : state.row id = some sub) : ∃ entries, Explains env id state calls entries := by
  induction calls generalizing state sub with
  | nil => exact ⟨[], .nil state⟩
  | cons call _ ih =>
    obtain ⟨_, allowed, row⟩ := step_row call (kept call (by simp)) found
    obtain ⟨_, explains⟩ := ih (fun other mem => kept other (by simp [mem])) row
    refine ⟨_, .cons allowed ?_ explains⟩
    rw [row, found]
    rfl

theorem run_apply (env : SubscriptionEnv) (now : Int) (request : String) (writes : List RowWrite)
    (sub : UserSubscription) : run (RowEntry.apply env) sub (writes.map (RowEntry.mk now request)) =
      writes.foldl (RowWrite.apply env now) sub := by
  induction writes generalizing sub with
  | nil => rfl
  | cons _ _ ih => exact ih _

theorem explains_row {calls entries} (explains : Explains env id state calls entries)
    (found : state.row id = some sub) :
    (run (callStep env) state calls).row id = some (run (RowEntry.apply env.subscriptions) sub entries) := by
  induction explains generalizing sub with
  | nil => exact found
  | cons _ row _ ih =>
    rw [run_append, run_apply]
    apply ih
    rw [row, found]
    rfl

theorem step_now (event) : state.now ≤ (state.step env event).now := by
  cases event with
  | tick seconds => exact Int.le_add_of_nonneg_right (Int.natCast_nonneg seconds)
  | _ => exact le_rfl

theorem writes_invariant {γ : Type} {step : γ → RowEntry → γ} {allowed : γ → RowEntry → Prop}
    {now : Int} {request : String}
    (holds : γ → Prop) (keeps : ∀ ghost write, holds ghost → allowed ghost ⟨now, request, write⟩ →
      holds (step ghost ⟨now, request, write⟩)) {writes : List RowWrite} {ghost : γ} (init : holds ghost)
    (along : Along step allowed ghost (writes.map (RowEntry.mk now request))) :
    holds (run step ghost (writes.map (RowEntry.mk now request))) := by
  induction writes generalizing ghost with
  | nil => exact init
  | cons write _ ih => exact ih (keeps ghost write init along.1) along.2

theorem explains_invariant {γ : Type} {step : γ → RowEntry → γ} {allowed : γ → RowEntry → Prop} (holds : Int → γ → Prop)
    (later : ∀ ghost now after, now ≤ after → holds now ghost → holds after ghost)
    (keeps : ∀ ghost entry, holds entry.now ghost → allowed ghost entry → holds entry.now (step ghost entry))
    {calls} {entries : List RowEntry} (explains : Explains env id state calls entries) {ghost : γ}
    (init : holds state.now ghost) (along : Along step allowed ghost entries) :
    holds (run (callStep env) state calls).now (run step ghost entries) := by
  induction explains generalizing ghost with
  | nil => exact init
  | @cons state call _ _ _ _ _ _ ih =>
    obtain ⟨first, remaining⟩ := along_append.mp along
    rw [run_append]
    apply ih _ remaining
    apply later _ state.now _ (step_now call.event)
    exact writes_invariant (holds state.now) (fun ghost write =>
      keeps ghost ⟨state.now, call.request, write⟩) init first

end History
end NewApi.Proof
