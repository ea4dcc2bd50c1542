import Mathlib.Data.List.Dedup
import Mathlib.Data.List.Sort

/-!
# Levels

The distinct values of a list from the highest to the lowest, and the one at an index; an index past
the end stands for the lowest.
-/

namespace NewApi.Library
open List
variable {α : Type} [LinearOrder α] {values others : List α} {value : α}

def levels (values : List α) : List α := values.dedup.insertionSort (· ≥ ·)

def levelAt (values : List α) (index : Nat) : Option α := (levels values)[min index ((levels values).length - 1)]?

theorem mem_levels : value ∈ levels values ↔ value ∈ values := by
  simp [levels]

theorem nodup_levels (values : List α) : (levels values).Nodup :=
  (perm_insertionSort _ _).nodup_iff.mpr (nodup_dedup values)

theorem sorted_levels (values : List α) : (levels values).Pairwise (· > ·) := by
  have falling : (levels values).Pairwise (· ≥ ·) := pairwise_insertionSort _ _
  exact (falling.and (nodup_levels values)).imp fun both => lt_of_le_of_ne both.1 (Ne.symm both.2)

theorem levels_congr (same : ∀ value, value ∈ values ↔ value ∈ others) : levels values = levels others := by
  have perm : (levels values).Perm (levels others) := by
    rw [perm_ext_iff_of_nodup (nodup_levels values) (nodup_levels others)]
    intro _
    rw [mem_levels, mem_levels, same]
  exact perm.eq_of_pairwise' (sorted_levels values) (sorted_levels others)

theorem levelAt_congr (same : ∀ value, value ∈ values ↔ value ∈ others) (index : Nat) :
    levelAt values index = levelAt others index := by
  rw [levelAt, levelAt, levels_congr same]

theorem levels_eq_nil : levels values = [] ↔ values = [] := by
  simp only [eq_nil_iff_forall_not_mem, mem_levels]

@[simp] theorem levelAt_nil (index : Nat) : levelAt ([] : List α) index = none := rfl

theorem levelAt_some (present : values ≠ []) (index : Nat) : ∃ value, levelAt values index = some value := by
  have inhabited : 0 < (levels values).length := length_pos_iff.mpr fun none => present (levels_eq_nil.mp none)
  exact ⟨_, getElem?_eq_getElem (by omega)⟩

theorem levelAt_mem {index} (found : levelAt values index = some value) : value ∈ values :=
  mem_levels.mp (mem_of_getElem? found)

theorem levelAt_zero {highest} (mem : highest ∈ values) (bound : ∀ value ∈ values, value ≤ highest) :
    levelAt values 0 = some highest := by
  have sorted := sorted_levels values
  have listed : highest ∈ levels values := mem_levels.mpr mem
  unfold levelAt
  cases shape : levels values with
  | nil => simp [shape] at listed
  | cons first =>
    rw [shape] at sorted listed
    rcases mem_cons.mp listed with rfl | later
    · rfl
    · have less := rel_of_pairwise_cons sorted later
      have most := bound first (mem_levels.mp (by simp [shape]))
      exact absurd less (not_lt.mpr most)

theorem levelAt_eq_none {index} : levelAt values index = none ↔ values = [] := by
  constructor
  · intro none
    by_contra present
    obtain ⟨_, found⟩ := levelAt_some present index
    rw [none] at found
    cases found
  · rintro rfl
    rfl

theorem levelAt_falls {index later lower} (before : index ≤ later) (found : levelAt values index = some value)
    (found' : levelAt values later = some lower) : lower ≤ value := by
  obtain ⟨inside, rfl⟩ := List.getElem?_eq_some_iff.mp found
  obtain ⟨inside', rfl⟩ := List.getElem?_eq_some_iff.mp found'
  rcases Nat.lt_or_ge (min index ((levels values).length - 1)) (min later ((levels values).length - 1)) with less | same
  · exact le_of_lt (pairwise_iff_getElem.mp (sorted_levels values) _ _ inside inside' less)
  · have equal : min later ((levels values).length - 1) = min index ((levels values).length - 1) := by omega
    simp only [equal, le_refl]

theorem falling_counts {list : List α} (falling : list.Pairwise (· > ·)) (mem : value ∈ list) :
    (∀ index, list[index]? = some value ↔ index = list.countP (value < ·)) ∧
      list.length = list.countP (value < ·) + 1 + list.countP (· < value) := by
  obtain ⟨first, rest, rfl⟩ := append_of_mem mem
  obtain ⟨-, after, before⟩ := pairwise_append.mp falling
  have above : (first ++ value :: rest).countP (value < ·) = first.length := by
    rw [countP_append, countP_eq_length.mpr (by simpa using fun other mem => before other mem value (by simp)),
      countP_eq_zero.mpr, Nat.add_zero]
    simpa using fun other mem => (rel_of_pairwise_cons after mem).le
  have below : (first ++ value :: rest).countP (· < value) = rest.length := by
    rw [countP_append, countP_eq_zero.mpr (by simpa using fun other mem => (before other mem value (by simp)).le),
      countP_cons_of_neg (by simp), countP_eq_length.mpr, Nat.zero_add]
    simpa using fun other mem => rel_of_pairwise_cons after mem
  rw [above, below]
  refine ⟨fun index => ⟨fun found => ?_, ?_⟩, by simp; omega⟩
  · obtain ⟨inside, -⟩ := List.getElem?_eq_some_iff.mp found
    exact (getElem?_inj inside (falling.imp fun less => less.ne')).mp (found.trans (by simp))
  · rintro rfl
    simp

/-- Among more levels the one at an index stays: `above` and `below` count the levels besides the
`kept` ones on either side of it. -/
def Unshifted (kept index above below : Nat) : Prop :=
  if index < kept then above = 0 else above + kept ≤ index + 1 ∧ (below = 0 ∨ above + kept = index + 1)

theorem levelAt_kept_iff {index} (more : ∀ value ∈ values, value ∈ others) (found : levelAt values index = some value) :
    levelAt others index = some value ↔ Unshifted (levels values).length index
      ((levels others).countP fun other => value < other ∧ other ∉ values)
      ((levels others).countP fun other => other < value ∧ other ∉ values) := by
  have kept : levels values = (levels others).filter (· ∈ values) := by
    refine Perm.eq_of_pairwise' (sorted_levels values) ((sorted_levels others).filter _) ?_
    rw [perm_ext_iff_of_nodup (nodup_levels values) ((nodup_levels others).filter _)]
    intro other
    simp only [mem_filter, mem_levels, decide_eq_true_eq]
    exact ⟨fun mem => ⟨more other mem, mem⟩, And.right⟩
  have split (p : α → Prop) [DecidablePred p] : (levels others).countP (fun other => decide (p other)) =
      (levels values).countP (fun other => decide (p other)) + (levels others).countP fun other =>
        p other ∧ other ∉ values := by
    rw [countP_eq_countP_filter_add _ _ (fun other => decide (other ∈ values)), ← kept, countP_filter]
    simp
  have mem := levelAt_mem found
  obtain ⟨at_index, length⟩ := falling_counts (sorted_levels values) (mem_levels.mpr mem)
  obtain ⟨at_index', length'⟩ := falling_counts (sorted_levels others) (mem_levels.mpr (more value mem))
  have here := (at_index _).mp found
  rw [levelAt, at_index', Unshifted]
  rw [split (value < ·)] at length' ⊢
  rw [split (· < value)] at length'
  split_ifs <;> omega

theorem levels_reached_iff (count : Nat) :
    (∀ value ∈ values, ∃ index < count, levelAt values index = some value) ↔ (levels values).length ≤ count := by
  constructor
  · intro reached
    by_contra few
    have inside : count < (levels values).length := by omega
    obtain ⟨_, _, found⟩ := reached ((levels values)[count]) (mem_levels.mp (getElem_mem inside))
    obtain ⟨_, same⟩ := List.getElem?_eq_some_iff.mp found
    have equal := (nodup_levels values).getElem_inj_iff.mp same
    omega
  · intro _ _ mem
    obtain ⟨index, inside, found⟩ := getElem_of_mem (mem_levels.mpr mem)
    refine ⟨index, by omega, ?_⟩
    have unclamped : min index ((levels values).length - 1) = index := by omega
    rw [levelAt, unclamped, getElem?_eq_getElem inside, found]

end NewApi.Library
