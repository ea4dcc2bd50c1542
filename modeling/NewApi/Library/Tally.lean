import Mathlib.Algebra.Ring.Int.Defs
import NewApi.Library.Run
import NewApi.Library.Table

/-!
# Counters

A column of numbers in a table, and what the events of a run add to it. The row need not exist.
-/

namespace NewApi.Library

section Columns
variable {α κ : Type} {key : α → κ} [DecidableEq κ]

def Table.column (read : α → Int) (k : κ) (t : Table key) : Option Int := (t.find? k).map read

theorem Table.column_updateWhere {t : Table key} {read : α → Int} {k : κ} (changed : κ) {f : α → α}
    {keeps : ∀ row, key (f row) = key row}
    {amount : Int} (adds : ∀ row, read (f row) = read row + amount) :
    (t.updateWhere (key · = changed) f keeps).column read k =
      (t.column read k).map (· + if k = changed then amount else 0) := by
  unfold Table.column
  rw [Table.find?_updateWhere]
  split_ifs with same
  · cases t.find? k with
    | none => rfl
    | some row => simp [adds row]
  · cases t.find? k with
    | none => rfl
    | some => simp

end Columns

section Runs
variable {σ ι : Type} {step : σ → ι → σ} {allowed : σ → ι → Prop} {holds : σ → Prop}
    {counter : σ → Option Int} {delta : ι → Int} {state : σ}
  {events : List ι}

def tally (delta : ι → Int) (events : List ι) : Int := (events.map delta).sum

def Tallies (step : σ → ι → σ) (counter : σ → Option Int) (delta : ι → Int) (state : σ) (events : List ι) : Prop :=
  counter (run step state events) = (counter state).map (· + tally delta events)

theorem tallies_cons {event} (adds : Tallies step counter delta state [event]) :
    Tallies step counter delta state (event :: events) ↔ Tallies step counter delta (step state event) events := by
  have added : counter (step state event) = (counter state).map
    (· + delta event) := by simpa [Tallies, run, tally] using adds
  have sums : ((counter state).map (· + delta event)).map (· + tally delta events) =
    (counter state).map (· + tally delta (event :: events)) := by
    rw [Option.map_map]
    congr 1
    funext amount
    simp only [Function.comp_apply, tally, List.map_cons, List.sum_cons, Int.add_assoc]
  unfold Tallies
  rw [run, added, sums]

theorem run_tallies (keeps : ∀ state event, holds state → holds (step state event))
    (adds : ∀ state event, holds state → allowed state event →
    Tallies step counter delta state [event]) (init : holds state)
    (along : Along step allowed state events) : Tallies step counter delta state events := by
  induction events generalizing state with
  | nil => simp [Tallies, run, tally]
  | cons event _ ih =>
    rw [tallies_cons (adds state event init along.1)]
    exact ih (keeps state event init) along.2

theorem tallies_iff_along (keeps : ∀ state event, holds state → holds (step state event))
    (adds : ∀ state event, holds state → (Tallies step counter delta state [event] ↔
    allowed state event)) (init : holds state) :
    (∀ first, first <+: events → Tallies step counter delta state first) ↔ Along step allowed state events := by
  constructor
  · intro always
    induction events generalizing state with
    | nil => trivial
    | cons event _ ih =>
      have now : Tallies step counter delta state [event] := always [event] (by simp)
      refine ⟨(adds state event init).mp now, ih (keeps state event init) ?_⟩
      intro first before
      exact (tallies_cons now).mp (always (event :: first) (by simpa using before))
  · rintro along _ ⟨_, rfl⟩
    exact run_tallies keeps (fun state event ok now => (adds state event ok).mpr now) init (along_append.mp along).1

end Runs

end NewApi.Library
