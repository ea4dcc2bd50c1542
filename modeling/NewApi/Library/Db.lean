import Mathlib.Logic.Basic

/-!
# Programs over a store whose statements may fail

Which of the labelled statements of a call fail is an argument of the call, so a property of every
assignment of faults holds whichever statement breaks. A failed statement has no effect, and a
transaction that fails leaves the store as it found it.
-/

namespace NewApi.Library

inductive Halt (ε : Type) where
  | error (reason : ε)
  | diverges
deriving DecidableEq

abbrev Faults (κ ε : Type) := κ → Option ε

abbrev Undone {ε σ α : Type} (result : Except (Halt ε) α) (store after : σ) : Prop :=
  (∃ reason, result = .error (.error reason)) ∧ after = store

def Db (κ ε σ α : Type) := Faults κ ε → σ → Except (Halt ε) α × σ

namespace Db
variable {κ ε σ α β : Type}

instance : Monad (Db κ ε σ) where
  pure a := fun _ store => (.ok a, store)
  bind m f := fun faults store =>
    match m faults store with
    | (.ok a, after) => f a faults after
    | (.error halt, after) => (.error halt, after)

def fail (reason : ε) : Db κ ε σ α := fun _ store => (.error (.error reason), store)

def diverge : Db κ ε σ α := fun _ store => (.error .diverges, store)

def statement (label : κ) (effect : σ → α × σ) : Db κ ε σ α := fun faults store =>
  match faults label with
  | some reason => (.error (.error reason), store)
  | none => (.ok (effect store).1, (effect store).2)

def query (label : κ) (read : σ → α) : Db κ ε σ α := statement label fun store => (read store, store)

def execute (label : κ) (write : σ → σ) : Db κ ε σ Unit := statement label fun store => ((), write store)

def record (write : σ → σ) : Db κ ε σ Unit := fun _ store => (.ok (), write store)

def transaction (start commit : κ) (body : Db κ ε σ α) : Db κ ε σ α := fun faults store =>
  match faults start with
  | some reason => (.error (.error reason), store)
  | none =>
    match body faults store with
    | (.error halt, _) => (.error halt, store)
    | (.ok a, after) =>
      match faults commit with
      | some reason => (.error (.error reason), store)
      | none => (.ok a, after)

def attempt (body : Db κ ε σ α) : Db κ ε σ (Except ε α) := fun faults store =>
  match body faults store with
  | (.ok a, after) => (.ok (.ok a), after)
  | (.error (.error reason), after) => (.ok (.error reason), after)
  | (.error .diverges, after) => (.error .diverges, after)

def within {κ' : Type} (scope : κ' → κ) (body : Db κ' ε σ α) : Db κ ε σ α := fun faults store =>
  body (fun label => faults (scope label)) store

def zoom {τ : Type} (get : σ → τ) (set : σ → τ → σ) (body : Db κ ε τ α) : Db κ ε σ α :=
  fun faults store => ((body faults (get store)).1, set store (body faults (get store)).2)

variable {m : Db κ ε σ α} {f : α → Db κ ε σ β} {faults : Faults κ ε} {store after : σ}

theorem pure_apply (a : α) : (pure a : Db κ ε σ α) faults store = (.ok a, store) := rfl

theorem bind_apply : (m >>= f) faults store = match m faults store with
    | (.ok a, after) => f a faults after
    | (.error halt, after) => (.error halt, after) := rfl

theorem bind_of_ok {a middle} (begun : m faults store = (.ok a, middle)) :
    (m >>= f) faults store = f a faults middle := by
  rw [bind_apply, begun]

theorem pure_eq {a result} : (pure a : Db κ ε σ α) faults store = (result, after) ↔ result = .ok a ∧ after = store := by
  rw [pure_apply, Prod.mk.injEq]
  exact and_congr eq_comm eq_comm

theorem pure_eq_ok {a b} : (pure a : Db κ ε σ α) faults store = (.ok b, after) ↔ b = a ∧ after = store := by
  rw [pure_eq, Except.ok.injEq]

theorem bind_eq_ok {b} : (m >>= f) faults store = (.ok b, after) ↔
    ∃ a middle, m faults store = (.ok a, middle) ∧ f a faults middle = (.ok b, after) := by
  rw [bind_apply]
  rcases m faults store with ⟨result, middle⟩
  cases result with
  | error => simp
  | ok a => exact ⟨fun h => ⟨a, middle, rfl, h⟩, fun ⟨_, _, same, h⟩ => by cases same; exact h⟩

theorem bind_eq_error {halt} : (m >>= f) faults store = (.error halt, after) ↔ m faults store = (.error halt, after) ∨
      ∃ a middle, m faults store = (.ok a, middle) ∧ f a faults middle = (.error halt, after) := by
  rw [bind_apply]
  rcases m faults store with ⟨result, middle⟩
  cases result with
  | error => simp
  | ok a =>
    constructor
    · exact fun h => .inr ⟨a, middle, rfl, h⟩
    · rintro (bad | ⟨_, _, same, h⟩)
      · cases bad
      · cases same
        exact h

theorem fail_eq {reason result} : (fail reason : Db κ ε σ α) faults store = (result, after) ↔
      result = .error (.error reason) ∧ after = store := by
  rw [fail, Prod.mk.injEq]
  exact and_congr eq_comm eq_comm

theorem diverge_eq {result} : (diverge : Db κ ε σ α) faults store = (result, after) ↔
      result = .error .diverges ∧ after = store := by
  rw [diverge, Prod.mk.injEq]
  exact and_congr eq_comm eq_comm

theorem statement_eq_ok {label : κ} {effect : σ → α × σ} {a : α} :
    statement label effect faults store = (.ok a, after) ↔
      faults label = none ∧ effect store = (a, after) := by
  unfold statement
  cases faults label <;> simp [Prod.ext_iff]

theorem statement_eq_error {label : κ} {effect : σ → α × σ} {halt : Halt ε} :
    statement label effect faults store = (.error halt, after) ↔
      after = store ∧ ∃ reason, faults label = some reason ∧ halt = .error reason := by
  unfold statement
  cases faults label with
  | none => simp
  | some => simp [eq_comm, and_comm]

theorem query_eq_ok {label : κ} {read : σ → α} {a : α} : query label read faults store = (.ok a, after) ↔
      faults label = none ∧ a = read store ∧ after = store := by
  rw [query, statement_eq_ok, Prod.mk.injEq]
  simp only [eq_comm]

theorem query_bind_eq_ok {label : κ} {read : σ → α} {b} : (query label read >>= f) faults store = (.ok b, after) ↔
    faults label = none ∧ f (read store) faults store = (.ok b, after) := by
  simp [bind_eq_ok, query_eq_ok, and_assoc]

theorem query_eq_error {label : κ} {read : σ → α} {halt : Halt ε} :
    query label read faults store = (.error halt, after) ↔
      after = store ∧ ∃ reason, faults label = some reason ∧ halt = .error reason :=
  statement_eq_error

theorem execute_eq_ok {label : κ} {write : σ → σ} {a : Unit} : execute label write faults store = (.ok a, after) ↔
      faults label = none ∧ after = write store := by
  rw [execute, statement_eq_ok, Prod.mk.injEq]
  simp only [eq_comm, true_and]

theorem execute_bind_eq_ok {label : κ} {write : σ → σ} {next : Unit → Db κ ε σ β} {b} :
    (execute label write >>= next) faults store = (.ok b, after) ↔
      faults label = none ∧ next () faults (write store) = (.ok b, after) := by
  simp only [bind_eq_ok, execute_eq_ok]
  exact ⟨fun ⟨_, _, ⟨fine, same⟩, done⟩ => ⟨fine, same ▸ done⟩, fun ⟨fine, done⟩ => ⟨(), _, ⟨fine, rfl⟩, done⟩⟩

theorem execute_eq_error {label : κ} {write : σ → σ} {halt : Halt ε} :
    execute label write faults store = (.error halt, after) ↔
      after = store ∧ ∃ reason, faults label = some reason ∧ halt = .error reason :=
  statement_eq_error

theorem record_eq {write result} : (record write : Db κ ε σ Unit) faults store = (result, after) ↔
      result = .ok () ∧ after = write store := by
  rw [record, Prod.mk.injEq]
  exact and_congr eq_comm eq_comm

theorem transaction_eq_ok {start commit a} : transaction start commit m faults store = (.ok a, after) ↔
      faults start = none ∧ faults commit = none ∧ m faults store = (.ok a, after) := by
  unfold transaction
  cases faults start with
  | some => simp
  | none =>
    rcases m faults store with ⟨result, _⟩
    cases result with
    | error => simp
    | ok a => cases faults commit <;> simp

theorem transaction_error_store {start commit halt}
    (failed : transaction start commit m faults store = (.error halt, after)) : after = store := by
  unfold transaction at failed
  cases begun : faults start with
  | some => simp_all
  | none =>
    rcases outcome : m faults store with ⟨result, _⟩
    cases result with
    | error => simp_all
    | ok a => cases committed : faults commit <;> simp_all

theorem transaction_store (holds : σ → Prop) {start commit result}
    (ran : transaction start commit m faults store = (result, after)) (same : holds store)
    (body : ∀ a middle, m faults store = (.ok a, middle) → holds middle) : holds after := by
  cases result with
  | error =>
    rw [transaction_error_store ran]
    exact same
  | ok a => exact body a after (transaction_eq_ok.mp ran).2.2

theorem attempt_eq_ok {outcome} : attempt m faults store = (.ok outcome, after) ↔
      (∃ a, outcome = .ok a ∧ m faults store = (.ok a, after)) ∨
      (∃ reason, outcome = .error reason ∧ m faults store = (.error (.error reason), after)) := by
  unfold attempt
  rcases m faults store with ⟨result, _⟩
  cases result with
  | ok a =>
    constructor
    · intro h
      cases h
      exact .inl ⟨a, rfl, rfl⟩
    · rintro (⟨_, rfl, same⟩ | ⟨_, _, same⟩)
      · cases same
        rfl
      · cases same
  | error halt =>
    cases halt with
    | diverges => simp
    | error reason =>
      constructor
      · intro h
        cases h
        exact .inr ⟨reason, rfl, rfl⟩
      · rintro (⟨_, _, same⟩ | ⟨_, rfl, same⟩)
        · cases same
        · cases same
          rfl

theorem attempt_query_bind {label : κ} {read : σ → α} {next : Except ε α → Db κ ε σ β} {b}
    (ran : (attempt (query label read) >>= next) faults store = (.ok b, after)) :
    next (.ok (read store)) faults store = (.ok b, after) ∨
      ∃ reason, next (.error reason) faults store = (.ok b, after) := by
  obtain ⟨_, _, looked, done⟩ := bind_eq_ok.mp ran
  rcases attempt_eq_ok.mp looked with ⟨_, rfl, answered⟩ | ⟨reason, rfl, failed⟩
  · obtain ⟨-, rfl, rfl⟩ := query_eq_ok.mp answered
    exact .inl done
  · obtain ⟨rfl, -⟩ := query_eq_error.mp failed
    exact .inr ⟨reason, done⟩

theorem attempt_bind_of_ok {next : Except ε α → Db κ ε σ β} {a : α} {middle : σ}
    (begun : m faults store = (.ok a, middle)) :
    (attempt m >>= next) faults store = next (.ok a) faults middle :=
  bind_of_ok (attempt_eq_ok.mpr (.inl ⟨a, rfl, begun⟩))

theorem attempt_query {label : κ} {read : σ → α} (noFault : faults label = none) :
    attempt (query label read) faults store = (.ok (.ok (read store)), store) :=
  attempt_eq_ok.mpr (.inl ⟨_, rfl, query_eq_ok.mpr ⟨noFault, rfl, rfl⟩⟩)

theorem attempt_eq_error {halt} : attempt m faults store = (.error halt, after) ↔
      halt = .diverges ∧ m faults store = (.error .diverges, after) := by
  unfold attempt
  rcases m faults store with ⟨result, _⟩
  cases result with
  | ok a => simp
  | error halt => cases halt <;> simp [eq_comm]

variable {κ' τ : Type} {c : Prop}

theorem within_apply (scope : κ' → κ) (body : Db κ' ε σ α) :
    within scope body faults store = body (fun label => faults (scope label)) store := rfl

theorem zoom_eq {get : σ → τ} {set : σ → τ → σ} {body : Db κ ε τ α}
    {result : Except (Halt ε) α} : zoom get set body faults store = (result, after) ↔
      ∃ part, body faults (get store) = (result, part) ∧ after = set store part := by
  unfold zoom
  rcases body faults (get store) with ⟨_, part⟩
  constructor
  · intro h
    cases h
    exact ⟨part, rfl, rfl⟩
  · rintro ⟨_, same, rfl⟩
    cases same
    rfl

theorem attempt_cases (effect : α → σ → Prop) {result}
    (body : ∀ result after, m faults store = (result, after) →
    (∃ a, result = .ok a ∧ effect a after) ∨ Undone result store after)
    (ran : attempt m faults store = (result, after)) :
    (∃ a, result = .ok (.ok a) ∧ effect a after) ∨ ((∃ reason, result = .ok (.error reason)) ∧ after = store) := by
  cases result with
  | error =>
    obtain ⟨-, stuck⟩ := attempt_eq_error.mp ran
    rcases body _ _ stuck with ⟨_, bad, -⟩ | ⟨⟨_, bad⟩, -⟩ <;> cases bad
  | ok =>
    rcases attempt_eq_ok.mp ran with ⟨a, rfl, inner⟩ | ⟨reason, rfl, inner⟩
    · rcases body _ _ inner with ⟨_, same, effected⟩ | ⟨⟨_, bad⟩, -⟩
      · cases same
        exact .inl ⟨a, rfl, effected⟩
      · cases bad
    · rcases body _ _ inner with ⟨_, bad, -⟩ | ⟨-, same⟩
      · cases bad
      · exact .inr ⟨⟨reason, rfl⟩, same⟩

/-! ## Programs that come to an end -/

def Terminates (m : Db κ ε σ α) : Prop := ∀ faults store after, m faults store ≠ (.error .diverges, after)

theorem terminates_pure (a : α) : Terminates (pure a : Db κ ε σ α) := by
  intro _ _ _ ran
  cases (pure_eq.mp ran).1

theorem terminates_fail (reason : ε) : Terminates (fail reason : Db κ ε σ α) := by
  intro _ _ _ ran
  cases (fail_eq.mp ran).1

theorem terminates_ite [Decidable c] {n} (yes : Terminates m) (no : Terminates n) :
    Terminates (if c then m else n) := by
  split
  · exact yes
  · exact no

theorem terminates_bind (first : Terminates m) (second : ∀ a, Terminates (f a)) : Terminates (m >>= f) := by
  intro faults store after ran
  rcases bind_eq_error.mp ran with stopped | ⟨a, middle, -, stopped⟩
  · exact first faults store after stopped
  · exact second a faults middle after stopped

theorem terminates_statement (label : κ) (effect : σ → α × σ) : Terminates (statement label effect : Db κ ε σ α) := by
  intro _ _ _ ran
  obtain ⟨-, _, -, bad⟩ := statement_eq_error.mp ran
  cases bad

theorem terminates_transaction {start commit} (body : Terminates m) : Terminates (transaction start commit m) := by
  intro faults store _ ran
  unfold transaction at ran
  cases begun : faults start with
  | some => simp [begun] at ran
  | none =>
    rcases outcome : m faults store with ⟨result, middle⟩
    cases result with
    | error halt =>
      cases halt with
      | error => simp [begun, outcome] at ran
      | diverges => exact body faults store middle outcome
    | ok a => cases committed : faults commit <;> simp [begun, outcome, committed] at ran

theorem terminates_within {scope : κ' → κ} {body : Db κ' ε σ α} (ends : Terminates body) :
    Terminates (within scope body) :=
  fun _ store after ran => ends _ store after ran

theorem terminates_zoom {get : σ → τ} {set : σ → τ → σ} {body : Db κ ε τ α}
    (ends : Terminates body) : Terminates (zoom get set body) := by
  intro faults _ _ ran
  obtain ⟨part, ran, -⟩ := zoom_eq.mp ran
  exact ends faults _ part ran

theorem attempt_returns (ends : Terminates m) (faults : Faults κ ε) (store : σ) :
    ∃ outcome after, attempt m faults store = (.ok outcome, after) := by
  rcases ran : attempt m faults store with ⟨result, after⟩
  cases result with
  | ok outcome => exact ⟨outcome, after, rfl⟩
  | error => exact absurd (attempt_eq_error.mp ran).2 (ends faults store after)

/-! ## Programs that return whatever fails -/

def Returns (holds : α → Prop) (m : Db κ ε σ α) : Prop :=
    ∀ faults store, ∃ a after, m faults store = (.ok a, after) ∧ holds a

theorem returns_pure {holds a} (here : holds a) : Returns holds (pure a : Db κ ε σ α) :=
  fun _ store => ⟨a, store, rfl, here⟩

theorem returns_bind {first holds} (begins : Returns first m) (cont : ∀ a, first a → Returns holds (f a)) :
    Returns holds (m >>= f) := by
  intro faults store
  obtain ⟨a, middle, begun, here⟩ := begins faults store
  rw [bind_of_ok begun]
  exact cont a here faults middle

theorem returns_attempt (ends : Terminates m) : Returns (fun _ => True) (attempt m) := by
  intro faults store
  obtain ⟨outcome, after, tried⟩ := attempt_returns ends faults store
  exact ⟨outcome, after, tried, trivial⟩

/-! ## Programs that only read -/

def ReadOnly (m : Db κ ε σ α) : Prop := ∀ faults store result after, m faults store = (result, after) → after = store

theorem readOnly_pure (a : α) : ReadOnly (pure a : Db κ ε σ α) :=
  fun _ _ _ _ ran => (pure_eq.mp ran).2

theorem readOnly_fail (reason : ε) : ReadOnly (fail reason : Db κ ε σ α) :=
  fun _ _ _ _ ran => (fail_eq.mp ran).2

theorem readOnly_query (label : κ) (read : σ → α) : ReadOnly (query label read : Db κ ε σ α) := by
  intro _ _ result _ ran
  cases result with
  | ok a => exact (query_eq_ok.mp ran).2.2
  | error => exact (query_eq_error.mp ran).1

theorem readOnly_ite [Decidable c] {n} (yes : ReadOnly m) (no : ReadOnly n) : ReadOnly (if c then m else n) := by
  split
  · exact yes
  · exact no

theorem readOnly_bind (first : ReadOnly m) (second : ∀ a, ReadOnly (f a)) : ReadOnly (m >>= f) := by
  intro faults store result after ran
  cases result with
  | ok b =>
    obtain ⟨a, middle, begun, ended⟩ := bind_eq_ok.mp ran
    exact (second a faults middle _ after ended).trans (first faults store _ middle begun)
  | error =>
    rcases bind_eq_error.mp ran with stopped | ⟨a, middle, begun, stopped⟩
    · exact first faults store _ after stopped
    · exact (second a faults middle _ after stopped).trans (first faults store _ middle begun)

theorem readOnly_within {scope : κ' → κ} {body : Db κ' ε σ α} (reads : ReadOnly body) : ReadOnly (within scope body) :=
  fun _ store result after ran => reads _ store result after ran

theorem readOnly_zoom {get : σ → τ} {set : σ → τ → σ} {body : Db κ ε τ α}
    (same : ∀ store, set store (get store) = store) (reads : ReadOnly body) : ReadOnly (zoom get set body) := by
  intro faults _ result _ ran
  obtain ⟨part, inner, rfl⟩ := zoom_eq.mp ran
  rw [reads faults _ result part inner, same]

theorem readOnly_attempt (reads : ReadOnly m) : ReadOnly (attempt m) := by
  intro faults store result after ran
  cases result with
  | ok => rcases attempt_eq_ok.mp ran with ⟨_, -, ran⟩ | ⟨_, -, ran⟩ <;> exact reads faults store _ after ran
  | error => exact reads faults store _ after (attempt_eq_error.mp ran).2

theorem bind_readOnly (reads : ReadOnly m) {result} (ran : (m >>= f) faults store = (result, after)) :
    after = store ∨ ∃ a, m faults store = (.ok a, store) ∧ f a faults store = (result, after) := by
  rcases begun : m faults store with ⟨outcome, middle⟩
  have same := reads faults store outcome middle begun
  subst same
  rw [bind_apply, begun] at ran
  cases outcome with
  | ok a => exact .inr ⟨a, rfl, ran⟩
  | error =>
    cases ran
    exact .inl rfl

theorem bind_store (holds : σ → Prop) {result} (ran : (m >>= f) faults store = (result, after))
    (first : ∀ outcome middle, m faults store = (outcome, middle) → holds middle)
    (second : ∀ a middle outcome, holds middle → f a faults middle = (outcome, after) → holds after) : holds after := by
  cases result with
  | ok b =>
    obtain ⟨a, middle, begun, ended⟩ := bind_eq_ok.mp ran
    exact second a middle _ (first _ middle begun) ended
  | error =>
    rcases bind_eq_error.mp ran with stopped | ⟨a, middle, begun, stopped⟩
    · exact first _ after stopped
    · exact second a middle _ (first _ middle begun) stopped

/-! ## What a program can do to the store -/

def Relates (r : σ → σ → Prop) (m : Db κ ε σ α) : Prop :=
  ∀ faults store result after, m faults store = (result, after) → r store after

section Relates
variable (r : σ → σ → Prop)

theorem relates_run {r} (related : Relates r m) (faults : Faults κ ε) (store : σ) : r store (m faults store).2 :=
  related faults store _ _ rfl

theorem relates_readOnly (refl : ∀ store, r store store) (reads : ReadOnly m) : Relates r m := by
  intro faults store result after ran
  rw [reads faults store result after ran]
  exact refl store

theorem relates_bind (trans : ∀ a b c, r a b → r b c → r a c) (first : Relates r m) (second : ∀ a, Relates r (f a)) :
    Relates r (m >>= f) := by
  intro faults store result after ran
  cases result with
  | ok b =>
    obtain ⟨a, middle, begun, ended⟩ := bind_eq_ok.mp ran
    exact trans _ _ _ (first faults store _ middle begun) (second a faults middle _ after ended)
  | error =>
    rcases bind_eq_error.mp ran with stopped | ⟨a, middle, begun, stopped⟩
    · exact first faults store _ after stopped
    · exact trans _ _ _ (first faults store _ middle begun) (second a faults middle _ after stopped)

theorem relates_statement (refl : ∀ store, r store store) {label effect}
    (writes : ∀ store, r store (effect store).2) : Relates r (statement label effect : Db κ ε σ α) := by
  intro _ store result after ran
  cases result with
  | ok a =>
    have same := (statement_eq_ok.mp ran).2
    rw [show after = (effect store).2 by rw [same]]
    exact writes store
  | error =>
    rw [(statement_eq_error.mp ran).1]
    exact refl store

theorem relates_transaction (refl : ∀ store, r store store) {start commit}
    (body : ∀ faults store a after, m faults store = (.ok a, after) → r store after) :
    Relates r (transaction start commit m) :=
  fun faults store _ _ ran => transaction_store (r store) ran (refl store) fun a middle => body faults store a middle

end Relates

end Db
end NewApi.Library
