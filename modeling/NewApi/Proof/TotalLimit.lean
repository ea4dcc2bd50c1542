import Mathlib.Tactic.Linarith
import NewApi.Middleware.ModelRateLimit

/-!
# The total limit over a window

A full bucket lets an allowance through at once and refills inside the window.
-/

namespace NewApi.Proof
open Middleware

def windowBudget (n d start : Int) (bucket : Bucket) : Int :=
  if bucket.lastTime < start then n * d + n * (d - 1)
  else if bucket.lastTime < start + d then bucket.tokens + n * (start + d - 1 - bucket.lastTime)
  else 0

section Budget
variable {n d now : Int} {times : List Int} {bucket : Bucket} (start : Int)
  (positive : 1 ≤ n) (seconds : 1 ≤ d) (tokens : 0 ≤ bucket.tokens)
include positive seconds tokens

theorem windowBudget_nonneg : 0 ≤ windowBudget n d start bucket := by
  have product {k : Int} (nonneg : 0 ≤ k) : 0 ≤ n * k := mul_nonneg (by omega) nonneg
  unfold windowBudget
  split_ifs with early inside
  · exact add_nonneg (product (by omega)) (product (by omega))
  · exact add_nonneg tokens (product (by omega))
  · exact le_rfl

theorem windowBudget_refill (past : bucket.lastTime ≤ now) :
    windowBudget n d start ⟨refill (totalLimit n d) now bucket, now⟩ ≤
      windowBudget n d start bucket := by
  have full : refill (totalLimit n d) now bucket ≤ n * d := min_le_left _ _
  have filled : refill (totalLimit n d) now bucket ≤ bucket.tokens + (now - bucket.lastTime) * n := min_le_right _ _
  have nonneg := windowBudget_nonneg start positive seconds tokens
  by_cases early : now < start
  · rw [windowBudget, windowBudget, if_pos early, if_pos (by omega)]
  by_cases inside : now < start + d
  · rw [windowBudget, if_neg early, if_pos inside, windowBudget, if_pos (show bucket.lastTime < start + d by omega)]
    split_ifs
    · have later : n * (start + d - 1 - now) ≤ n * (d - 1) :=
        mul_le_mul_of_nonneg_left (by omega) (by omega)
      exact add_le_add full later
    · linarith
  · rwa [windowBudget, if_neg early, if_neg inside]

theorem admitted_within_budget (ordered : (bucket.lastTime :: times).Pairwise (· ≤ ·)) :
    ((admitted n d (some bucket) times).countP (fun time => start ≤ time ∧ time < start + d) : Int) *
      d ≤ windowBudget n d start bucket := by
  induction times generalizing bucket with
  | nil => simpa [admitted] using windowBudget_nonneg start positive seconds tokens
  | cons now times ih =>
    obtain ⟨first, ordered⟩ := List.pairwise_cons.mp ordered
    have past := first now List.mem_cons_self
    have kept := windowBudget_refill start positive seconds tokens past
    have filled : 0 ≤ refill (totalLimit n d) now bucket :=
      le_min (mul_nonneg (by omega) (by omega)) (add_nonneg tokens (mul_nonneg (by omega) (by change 0 ≤ n; omega)))
    rw [admitted, if_pos (by omega), allow]
    generalize refill (totalLimit n d) now bucket = level at kept filled ⊢
    by_cases enough : d ≤ level
    · rw [if_pos (show level ≥ (totalLimit n d).requested from enough)]
      dsimp only [totalLimit]
      have rest := @ih ⟨level - d, now⟩ (sub_nonneg.mpr enough) ordered
      have taken : windowBudget n d start ⟨level - d, now⟩ +
          (if start ≤ now ∧ now < start + d then d else 0) = windowBudget n d start ⟨level, now⟩ := by
        dsimp only [windowBudget]
        split_ifs <;> omega
      split_ifs at taken with counts
      · rw [List.countP_cons_of_pos (by simpa using counts)]
        push_cast
        linarith
      · rw [List.countP_cons_of_neg (by simpa using counts)]
        linarith
    · rw [if_neg (show ¬level ≥ (totalLimit n d).requested from enough)]
      exact (@ih ⟨level, now⟩ filled ordered).trans kept

end Budget

theorem total_limit_in_window (totalMaxCount duration start : Int) (times : List Int) (positive : 1 ≤ totalMaxCount)
    (seconds : 1 ≤ duration) (single : totalMaxCount = 1 ∨ duration = 1) (ordered : times.Pairwise (· ≤ ·)) :
    (admitted totalMaxCount duration none times).countP
      (fun time => start ≤ time ∧ time < start + duration) ≤ totalMaxCount := by
  cases times with
  | nil => simpa [admitted] using (show 0 ≤ totalMaxCount by omega)
  | cons now times =>
    -- a key without a bucket answers like a full bucket written at the time of the first request
    have unwritten : admitted totalMaxCount duration none (now :: times) =
        admitted totalMaxCount duration (some ⟨totalMaxCount * duration, now⟩) (now :: times) := by
      simp [admitted, allow, refill, totalLimit, show 0 < totalMaxCount by omega]
    have full : 0 ≤ totalMaxCount * duration := mul_nonneg (by omega) (by omega)
    have bound := @admitted_within_budget _ _ (now :: times) ⟨totalMaxCount * duration, now⟩ start positive seconds full
      (List.pairwise_cons.mpr ⟨by simpa using (List.pairwise_cons.mp ordered).1, ordered⟩)
    have most : windowBudget totalMaxCount duration start ⟨totalMaxCount * duration, now⟩ ≤
      totalMaxCount * duration + totalMaxCount * (duration - 1) := by
      have rest (k : Int) (within : k ≤ duration - 1) : totalMaxCount * k ≤ totalMaxCount * (duration - 1) :=
        mul_le_mul_of_nonneg_left within (by omega)
      have none_left := rest 0 (by omega)
      dsimp only [windowBudget]
      split_ifs
      · exact le_rfl
      · exact Int.add_le_add_left (rest _ (by omega)) _
      · linarith
    rw [unwritten]
    rcases single with rfl | rfl
    · by_contra more
      have two := mul_le_mul_of_nonneg_right (show (2 : Int) ≤ _ from not_le.mp more) (show 0 ≤ duration by omega)
      linarith
    · linarith

theorem total_limit_in_window_minute :
    (admitted 1 60 none [0, 0, 60, 61]).countP (fun time => (0 : Int) ≤ time ∧ time < 0 + 60) ≤ (1 : Int) :=
  total_limit_in_window 1 60 0 [0, 0, 60, 61] le_rfl (by decide) (.inl rfl) (by decide)

theorem total_limit_exceeded : (admitted 2 60 none [0, 0, 30]).countP
    (fun time => (0 : Int) ≤ time ∧ time < 0 + 60) = 3 := by
  decide

end NewApi.Proof
