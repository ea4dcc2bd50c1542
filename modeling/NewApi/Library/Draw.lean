import Mathlib.Algebra.GroupWithZero.Nat
import Mathlib.Data.List.Count
import Mathlib.Data.List.Range

/-!
# Weighted draws

Items take up stretches of the numbers below the sum of their weights, and a number picks the item of its stretch.
-/

namespace NewApi.Library
open List
variable {α : Type} {weight : α → Nat}

def pickWeighted (weight : α → Nat) : List α → Nat → Option α
  | [], _ => none
  | item :: items, value => if value < weight item then some item else pickWeighted weight items (value - weight item)

theorem pickWeighted_some {items value} (below : value < (items.map weight).sum) :
    ∃ item ∈ items, pickWeighted weight items value = some item := by
  induction items generalizing value with
  | nil => simp at below
  | cons first _ ih =>
    rw [map_cons, sum_cons] at below
    unfold pickWeighted
    split_ifs with taken
    · exact ⟨first, by simp, rfl⟩
    · obtain ⟨item, mem, picked⟩ := ih (show value - weight first < _ by omega)
      exact ⟨item, by simp [mem], picked⟩

theorem countP_pickWeighted [DecidableEq α] (items : List α) (target : α) :
    ((range (items.map weight).sum).countP fun value => pickWeighted weight items value = some target) =
      items.count target * weight target := by
  induction items with
  | nil => simp
  | cons first rest ih =>
    have own : ((range (weight first)).countP fun value => pickWeighted weight (first :: rest) value = some target) =
        if first = target then weight target else 0 := by
      have picked : ∀ value ∈ range (weight first), pickWeighted weight (first :: rest) value = some first := by
        intro value below
        rw [pickWeighted, if_pos (mem_range.mp below)]
      split_ifs with same
      · subst same
        rw [countP_eq_length.mpr fun value below => decide_eq_true (picked value below), length_range]
      · rw [countP_eq_zero]
        intro value below
        simp [picked value below, same]
    have others : ((range (rest.map weight).sum).countP
        ((fun value => decide (pickWeighted weight (first :: rest) value = some target)) ∘ (weight first + ·))) =
        rest.count target * weight target := by
      rw [← ih]
      congr 1
      funext value
      rw [Function.comp_apply, pickWeighted, if_neg (by omega), Nat.add_sub_cancel_left]
    rw [map_cons, sum_cons, range_add, countP_append, own, countP_map, others, count_cons]
    by_cases same : first = target
    · simp [same, Nat.add_mul, Nat.add_comm]
    · simp [same]

theorem pickWeighted_last {items value} (pos : ∀ item ∈ items, 0 < weight item)
    (last : value + 1 = (items.map weight).sum) : pickWeighted weight items value = items.getLast? := by
  induction items generalizing value with
  | nil => rfl
  | cons _ rest ih =>
    rw [map_cons, sum_cons] at last
    unfold pickWeighted
    cases rest with
    | nil =>
      rw [map_nil, sum_nil] at last
      rw [if_pos (by omega)]
      rfl
    | cons second =>
      have beyond : 0 < weight second := pos second (by simp)
      rw [map_cons, sum_cons] at last
      rw [if_neg (by omega), ih (fun item mem => pos item (by simp [mem])) (by rw [map_cons, sum_cons]; omega),
        getLast?_cons_cons]

end NewApi.Library
