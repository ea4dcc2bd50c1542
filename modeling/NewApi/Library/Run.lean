import Mathlib.Logic.Basic

/-!
# Runs of a step function

A run applies a list of events one after another; an event that is not possible leaves the state as
it is. A condition on events may look at the state the event meets.
-/

namespace NewApi.Library
variable {σ ι : Type}

def run (step : σ → ι → σ) : σ → List ι → σ
  | state, [] => state
  | state, event :: rest => run step (step state event) rest

def Along (step : σ → ι → σ) (allowed : σ → ι → Prop) : σ → List ι → Prop
  | _, [] => True
  | state, event :: rest => allowed state event ∧ Along step allowed (step state event) rest

instance decidableAlong (step : σ → ι → σ) (allowed : σ → ι → Prop) [∀ state event, Decidable (allowed state event)] :
    (state : σ) → (events : List ι) → Decidable (Along step allowed state events)
  | _, [] => isTrue trivial
  | state, event :: rest =>
    have := decidableAlong step allowed (step state event) rest
    inferInstanceAs (Decidable (allowed state event ∧ Along step allowed (step state event) rest))

variable {step : σ → ι → σ} {allowed : σ → ι → Prop} {state : σ} {first second : List ι}

theorem run_append : run step state (first ++ second) = run step (run step state first) second := by
  induction first generalizing state with
  | nil => rfl
  | cons _ _ ih => exact ih

theorem along_append : Along step allowed state (first ++ second) ↔
    Along step allowed state first ∧ Along step allowed (run step state first) second := by
  induction first generalizing state with
  | nil => simp [Along, run]
  | cons _ _ ih => simp only [List.cons_append, Along, ih, and_assoc, run]

theorem along_at {event} (along : Along step allowed state (first ++ event :: second)) :
    allowed (run step state first) event := (along_append.mp along).2.1

theorem along_mono {weaker} (implies : ∀ state event, allowed state event → weaker state event)
    (along : Along step allowed state first) : Along step weaker state first := by
  induction first generalizing state with
  | nil => trivial
  | cons event _ ih => exact ⟨implies state event along.1, ih along.2⟩

theorem along_of_forall (every : ∀ event ∈ first, ∀ state, allowed state event) : Along step allowed state first := by
  induction first generalizing state with
  | nil => trivial
  | cons event _ ih => exact ⟨every event (by simp) state, ih fun other mem => every other (by simp [mem])⟩

theorem along_and {other} (along : Along step allowed state first) (besides : Along step other state first) :
    Along step (fun state event => allowed state event ∧ other state event) state first := by
  induction first generalizing state with
  | nil => trivial
  | cons _ _ ih => exact ⟨⟨along.1, besides.1⟩, ih along.2 besides.2⟩

theorem run_invariant {holds : σ → Prop} (keeps : ∀ state event, holds state → allowed state event →
    holds (step state event))
    (init : holds state) (along : Along step allowed state first) : holds (run step state first) := by
  induction first generalizing state with
  | nil => exact init
  | cons event _ ih => exact ih (keeps state event init along.1) along.2

theorem run_preserves (holds : σ → Prop) (keeps : ∀ state event, holds state → holds (step state event))
    (init : holds state) (events : List ι) : holds (run step state events) := by
  induction events generalizing state with
  | nil => exact init
  | cons event _ ih => exact ih (keeps state event init)

theorem run_origin (holds : σ → Prop) {events} (before : ¬holds state) (after : holds (run step state events)) :
    ∃ first event second, events = first ++ event :: second ∧ ¬holds (run step state first) ∧
      holds (step (run step state first) event) := by
  induction events generalizing state with
  | nil => exact absurd after before
  | cons event rest ih =>
    by_cases now : holds (step state event)
    · exact ⟨[], event, rest, rfl, before, now⟩
    · obtain ⟨first, event', second, rfl, origin⟩ := ih now after
      exact ⟨event :: first, event', second, rfl, origin⟩

theorem along_invariant {holds : σ → Prop} (keeps : ∀ state event, holds state →
    allowed state event → holds (step state event))
    (init : holds state) (along : Along step allowed state first) :
    Along step (fun state event => holds state ∧ allowed state event) state first := by
  induction first generalizing state with
  | nil => trivial
  | cons event _ ih => exact ⟨⟨init, along.1⟩, ih (keeps state event init along.1) along.2⟩

end NewApi.Library
