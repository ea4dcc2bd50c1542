import Mathlib.Logic.Function.Basic

/-!
# Scripts that run side by side

The statements of several scripts run one at a time, in any order, on a state they share. One that cannot run yet is met
again later; a script that is never met again has crashed. A thread remembers what it has been answered.
-/

namespace NewApi.Library

theorem update_some {ι β : Type} [DecidableEq ι] {f : ι → Option β} {i j : ι} {new found : β}
    (present : Function.update f i (some new) j = some found) : (j = i ∧ found = new) ∨ (j ≠ i ∧ f j = some found) := by
  by_cases same : j = i
  · subst same
    rw [Function.update_self] at present
    exact .inl ⟨rfl, (Option.some.inj present).symm⟩
  · rw [Function.update_of_ne same] at present
    exact .inr ⟨same, present⟩

inductive Script (Op : Type) (Answer : Op → Type) (ε α : Type) where
  | done (result : Except ε α)
  | call (op : Op) (next : Except ε (Answer op) → Script Op Answer ε α)

abbrev Entry (Op : Type) (Answer : Op → Type) (ε : Type) := (op : Op) × Except ε (Answer op)

theorem mem_past {Op : Type} {Answer : Op → Type} {ε : Type} {past : List (Entry Op Answer ε)}
    {entry last : Entry Op Answer ε}
    (mem : entry ∈ past ++ [last]) : entry ∈ past ∨ entry = last := by
  simpa using mem

namespace Script
variable {Op : Type} {Answer : Op → Type} {ε α β : Type}

def andThen : Script Op Answer ε α → (Except ε α → Script Op Answer ε β) → Script Op Answer ε β
  | .done result, rest => rest result
  | .call op next, rest => .call op fun answer => (next answer).andThen rest

instance : Monad (Script Op Answer ε) where
  pure a := .done (.ok a)
  bind script rest := script.andThen fun
    | .ok a => rest a
    | .error reason => .done (.error reason)

def fail (reason : ε) : Script Op Answer ε α := .done (.error reason)

def statement (op : Op) : Script Op Answer ε (Answer op) := .call op .done

def attempt (script : Script Op Answer ε α) : Script Op Answer ε (Except ε α) :=
  script.andThen fun result => .done (.ok result)

section Perform
variable {σ : Type} {answer : σ → (op : Op) → Except ε (Answer op) × σ}

def perform (answer : σ → (op : Op) → Except ε (Answer op) × σ) : Script Op Answer ε α → σ → Except ε α × σ
  | .done result, state => (result, state)
  | .call op next, state => (next (answer state op).1).perform answer (answer state op).2

end Perform

/-! ## What a script may do next

`allowed` says from the past of the script which statements may come next, `returns` what it may return in the end. -/

section Conforms
variable {allowed : List (Entry Op Answer ε) → Op → Prop} {returns : List (Entry Op Answer ε) → Except ε α → Prop}
  {past : List (Entry Op Answer ε)}

def Conforms (allowed : List (Entry Op Answer ε) → Op → Prop) (returns : List (Entry Op Answer ε) → Except ε α → Prop) :
    List (Entry Op Answer ε) → Script Op Answer ε α → Prop
  | past, .done result => returns past result
  | past, .call op next => allowed past op ∧ ∀ answer, Conforms allowed returns (past ++ [⟨op, answer⟩]) (next answer)

theorem conforms_andThen {after : List (Entry Op Answer ε) → Except ε β → Prop} {script}
    {rest : Except ε α → Script Op Answer ε β} (first : Conforms allowed returns past script)
    (second : ∀ past result, returns past result → Conforms allowed after past (rest result)) :
    Conforms allowed after past (script.andThen rest) := by
  induction script generalizing past with
  | done result => exact second past result first
  | call _ _ ih => exact ⟨first.1, fun answer => ih answer (first.2 answer)⟩

theorem conforms_bind {after : List (Entry Op Answer ε) → Except ε β → Prop} {script}
    {rest : α → Script Op Answer ε β} (first : Conforms allowed returns past script)
    (second : ∀ past a, returns past (.ok a) → Conforms allowed after past (rest a))
    (failed : ∀ past reason, returns past (.error reason) → after past (.error reason)) :
    Conforms allowed after past (script >>= rest) := by
  refine conforms_andThen first fun past result ret => ?_
  cases result with
  | ok a => exact second past a ret
  | error reason => exact failed past reason ret

theorem conforms_statement {op returns} (may : allowed past op)
    (answered : ∀ answer, returns (past ++ [⟨op, answer⟩]) answer) :
    Conforms allowed returns past (statement op) := ⟨may, answered⟩

theorem conforms_mono {weaker script} (conforms : Conforms allowed returns past script)
    (implies : ∀ past result, returns past result → weaker past result) : Conforms allowed weaker past script := by
  induction script generalizing past with
  | done result => exact implies past result conforms
  | call _ _ ih => exact ⟨conforms.1, fun answer => ih answer (conforms.2 answer)⟩

end Conforms
end Script

section Pool
variable {σ κ Op : Type} {Answer : Op → Type} {ε α : Type}

structure Thread (κ Op : Type) (Answer : Op → Type) (ε α : Type) where
  call : κ
  past : List (Entry Op Answer ε)
  rest : Script Op Answer ε α

structure Pool (σ κ Op : Type) (Answer : Op → Type) (ε α : Type) where
  shared : σ
  threads : Nat → Option (Thread κ Op Answer ε α)

/-- What a statement of a thread does, `none` while it has to wait. The fault is the error of a
statement that fails. -/
abbrev Exec (σ Op : Type) (Answer : Op → Type) (ε : Type) :=
  Nat → (op : Op) → Option ε → σ → Option (Except ε (Answer op) × σ)

namespace Pool

def start (shared : σ) : Pool σ κ Op Answer ε α := ⟨shared, fun _ => none⟩

def spawn (pool : Pool σ κ Op Answer ε α) (id : Nat) (call : κ) (script : Script Op Answer ε α) :
    Pool σ κ Op Answer ε α :=
  match pool.threads id with
  | none => { pool with threads := Function.update pool.threads id (some ⟨call, [], script⟩) }
  | some _ => pool

def advance (exec : Exec σ Op Answer ε) (pool : Pool σ κ Op Answer ε α) (id : Nat) (fault : Option ε) :
    Pool σ κ Op Answer ε α :=
  match pool.threads id with
  | some ⟨call, past, .call op next⟩ =>
    match exec id op fault pool.shared with
    | some (answer, shared) =>
        ⟨shared, Function.update pool.threads id (some ⟨call, past ++ [⟨op, answer⟩], next answer⟩)⟩
    | none => pool
  | _ => pool

theorem spawn_cases (pool : Pool σ κ Op Answer ε α) (id : Nat) (call : κ) (script) :
    pool.spawn id call script = pool ∨ (pool.threads id = none ∧
      pool.spawn id call script = { pool with threads := Function.update pool.threads id (some ⟨call, [], script⟩) }) := by
  unfold spawn
  split
  · next free => exact .inr ⟨free, rfl⟩
  · exact .inl rfl

theorem advance_cases (exec : Exec σ Op Answer ε) (pool : Pool σ κ Op Answer ε α) (id : Nat) (fault : Option ε) :
    pool.advance exec id fault = pool ∨ ∃ call past op next answer shared, pool.threads id = some ⟨call, past, .call op next⟩ ∧
      exec id op fault pool.shared = some (answer, shared) ∧ pool.advance exec id fault =
        ⟨shared, Function.update pool.threads id (some ⟨call, past ++ [⟨op, answer⟩], next answer⟩)⟩ := by
  unfold advance
  split
  · next call past op next thread =>
      split
      · next answer shared ran => exact .inr ⟨call, past, op, next, answer, shared, thread, ran, rfl⟩
      · exact .inl rfl
  · exact .inl rfl

def Conforming (allowed : κ → List (Entry Op Answer ε) → Op → Prop)
    (returns : κ → List (Entry Op Answer ε) → Except ε α → Prop) (pool : Pool σ κ Op Answer ε α) : Prop :=
  ∀ id thread, pool.threads id = some thread →
    thread.rest.Conforms (allowed thread.call) (returns thread.call) thread.past

variable {pool : Pool σ κ Op Answer ε α} {allowed : κ → List (Entry Op Answer ε) → Op → Prop}
  {returns : κ → List (Entry Op Answer ε) → Except ε α → Prop}

theorem conforming_start (shared : σ) : Conforming allowed returns (start shared : Pool σ κ Op Answer ε α) := by
  intro _ _ found
  cases found

theorem conforming_spawn (conforming : Conforming allowed returns pool) {call : κ} {script}
    (conforms : script.Conforms (allowed call) (returns call) []) (id : Nat) :
    Conforming allowed returns (pool.spawn id call script) := by
  rcases spawn_cases pool id call script with same | ⟨-, spawned⟩
  · rwa [same]
  · rw [spawned]
    intro other thread found
    rcases update_some found with ⟨rfl, rfl⟩ | ⟨-, before⟩
    · exact conforms
    · exact conforming other thread before

theorem conforming_advance (conforming : Conforming allowed returns pool) (exec : Exec σ Op Answer ε) (id : Nat) (fault : Option ε) :
    Conforming allowed returns (pool.advance exec id fault) := by
  rcases advance_cases exec pool id fault with same | ⟨call, past, op, next, answer, shared, thread, -, advanced⟩
  · rwa [same]
  · rw [advanced]
    intro other after found
    rcases update_some found with ⟨rfl, rfl⟩ | ⟨-, before⟩
    · exact (conforming other _ thread).2 answer
    · exact conforming other after before

def Lawful (allowed : κ → List (Entry Op Answer ε) → Op → Prop) (pool : Pool σ κ Op Answer ε α) : Prop :=
  ∀ id thread, pool.threads id = some thread → ∀ entry ∈ thread.past, ∃ before, before <+: thread.past ∧
    allowed thread.call before entry.1

theorem lawful_start (shared : σ) : Lawful allowed (start shared : Pool σ κ Op Answer ε α) := by
  intro _ _ found
  cases found

theorem lawful_spawn (lawful : Lawful allowed pool) (id : Nat) (call : κ) (script) :
    Lawful allowed (pool.spawn id call script) := by
  rcases spawn_cases pool id call script with same | ⟨-, spawned⟩
  · rwa [same]
  · rw [spawned]
    intro other thread found
    rcases update_some found with ⟨rfl, rfl⟩ | ⟨-, before⟩
    · simp
    · exact lawful other thread before

theorem lawful_advance (conforming : Conforming allowed returns pool) (lawful : Lawful allowed pool)
    (exec : Exec σ Op Answer ε) (id : Nat) (fault : Option ε) : Lawful allowed (pool.advance exec id fault) := by
  rcases advance_cases exec pool id fault with same | ⟨call, past, op, next, answer, shared, thread, -, advanced⟩
  · rwa [same]
  · rw [advanced]
    intro other after found
    rcases update_some found with ⟨rfl, rfl⟩ | ⟨-, before⟩
    · intro entry mem
      rcases List.mem_append.mp mem with old | new
      · obtain ⟨before, early, allows⟩ := lawful other _ thread entry old
        exact ⟨before, early.trans (List.prefix_append past _), allows⟩
      · obtain rfl := List.mem_singleton.mp new
        exact ⟨past, List.prefix_append past _, (conforming other _ thread).1⟩
    · exact lawful other after before

end Pool
end Pool
end NewApi.Library
