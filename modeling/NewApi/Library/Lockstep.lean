import Mathlib.Data.Option.Basic

/-!
# Partial computations in lockstep

Two partial computations are in lockstep if both fail, or both come to results that are related.
-/

namespace NewApi.Library
variable {α β γ δ ι κ : Type} {r : α → β → Prop} {s : γ → δ → Prop}

theorem rel_bind {x y f g} (related : Option.Rel r x y)
    (next : ∀ a b, r a b → Option.Rel s (f a) (g b)) : Option.Rel s (x.bind f) (y.bind g) := by
  cases related with
  | none => exact .none
  | some holds => exact next _ _ holds

theorem rel_map {x : Option α} {y : Option β} {f : α → γ} {s : γ → β → Prop} (related : Option.Rel r x y)
    (next : ∀ a b, x = some a → r a b → s (f a) b) : Option.Rel s (x.map f) y := by
  cases related with
  | none => exact .none
  | some holds => exact .some (next _ _ rfl holds)

theorem rel_some {a y} (related : Option.Rel r (some a) y) : ∃ b, y = some b ∧ r a b := by
  cases related with
  | some holds => exact ⟨_, rfl, holds⟩

theorem rel_eq_iff {x y a b} (related : Option.Rel r x y)
    (same : ∀ a' b', r a' b' → (a' = a ↔ b' = b)) : x = some a ↔ y = some b := by
  cases related with
  | none => simp
  | some holds => simpa using same _ _ holds

theorem rel_any_iff {x : Option α} {y : Option β} {p : α → Bool} {g : β → Option δ} {d : δ} (related : Option.Rel r x y)
    (same : ∀ a b, r a b → (p a = true ↔ g b = some d)) : x.any p = true ↔ y.bind g = some d := by
  cases related with
  | none => simp
  | some holds => exact same _ _ holds

theorem rel_foldlM {step : α → ι → Option α} {written : ι → List κ} {accept : β → κ → Option β} {a : α} {b : β}
    (each : ∀ a b item, r a b → Option.Rel r (step a item) ((written item).foldlM accept b))
    (related : r a b) (items : List ι) :
    Option.Rel r (items.foldlM step a) ((items.flatMap written).foldlM accept b) := by
  induction items generalizing a b with
  | nil => exact .some related
  | cons item _ ih =>
    rw [List.foldlM_cons, List.flatMap_cons, List.foldlM_append]
    exact rel_bind (each a b item related) fun a b holds => ih holds

end NewApi.Library
