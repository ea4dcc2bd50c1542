import Mathlib.Data.List.Sort

/-!
# Tables with a unique key

Rows in insertion order, no two with the same key. `save` replaces the row with the key of its
argument, if there is one; `insert` appends a row with a new key.
-/

namespace NewApi.Library

theorem head?_insertionSort {α : Type} {r : α → α → Prop} [DecidableRel r] [Std.Total r]
    [IsTrans α r] {l : List α} {x : α}
    (mem : x ∈ l) (unique : ∀ y ∈ l, r y x → y = x) : (l.insertionSort r).head? = some x := by
  have sorted := List.pairwise_insertionSort r l
  have present : x ∈ l.insertionSort r := (List.mem_insertionSort r).mpr mem
  have members : ∀ y, y ∈ l.insertionSort r → y ∈ l := fun y => (List.mem_insertionSort r).mp
  cases answer : l.insertionSort r with
  | nil => simp [answer] at present
  | cons first =>
    rw [answer] at sorted present members
    rcases List.mem_cons.mp present with rfl | later
    · rfl
    · rw [List.head?_cons, unique first (members first (by simp)) (List.rel_of_pairwise_cons sorted later)]

structure Table {α κ : Type} (key : α → κ) where
  rows : List α
  unique : (rows.map key).Nodup

namespace Table
variable {α κ : Type} {key : α → κ}

theorem eq_of_key {t : Table key} {row other : α} (mem : row ∈ t.rows) (member' : other ∈ t.rows)
    (same : key row = key other) : row = other :=
  List.inj_on_of_nodup_map t.unique mem member' same

@[ext] theorem ext {s t : Table key} (same : s.rows = t.rows) : s = t := by
  cases s
  cases t
  cases same
  rfl

def empty : Table key := ⟨[], List.nodup_nil⟩

def modify (t : Table key) (f : α → α) (keeps : ∀ row, key (f row) = key row) : Table key where
  rows := t.rows.map f
  unique := by
    have same : key ∘ f = key := funext keeps
    simpa [List.map_map, same] using t.unique

theorem mem_modify {t : Table key} {f : α → α} {keeps : ∀ row, key (f row) = key row} {row : α} :
    row ∈ (t.modify f keeps).rows ↔ ∃ old ∈ t.rows, f old = row :=
  List.mem_map

def filter (t : Table key) (p : α → Bool) : Table key where
  rows := t.rows.filter p
  unique := t.unique.sublist (List.filter_sublist.map key)

def orderBy (t : Table key) (r : α → α → Prop) [DecidableRel r] : Table key where
  rows := t.rows.insertionSort r
  unique := ((List.perm_insertionSort r t.rows).map key).nodup_iff.mpr t.unique

def limit (t : Table key) (n : Nat) : Table key where
  rows := t.rows.take n
  unique := t.unique.sublist ((List.take_sublist n t.rows).map key)

theorem mem_of_limit {t : Table key} {n} {row : α} (mem : row ∈ (t.limit n).rows) : row ∈ t.rows :=
  List.mem_of_mem_take mem

theorem mem_orderBy {t : Table key} {r : α → α → Prop} [DecidableRel r] {row : α} :
    row ∈ (t.orderBy r).rows ↔ row ∈ t.rows :=
  (List.perm_insertionSort r t.rows).mem_iff

theorem mem_filter {t : Table key} {p : α → Bool} {row : α} : row ∈ (t.filter p).rows ↔ row ∈ t.rows ∧ p row = true :=
  List.mem_filter

/-! `UPDATE … WHERE` and `DELETE … WHERE`, and the number of rows they hit. -/

section Where
variable (t : Table key) (hit : α → Prop) [DecidablePred hit]

def updateWhere (f : α → α) (keeps : ∀ row, key (f row) = key row) : Table key :=
  t.modify (fun row => if hit row then f row else row) fun row => by
    split_ifs
    · exact keeps row
    · rfl

def deleteWhere : Table key := t.filter fun row => !decide (hit row)

def countWhere : Nat := (t.rows.filter (hit ·)).length

variable {t hit}

theorem mem_updateWhere {f : α → α} {keeps : ∀ row, key (f row) = key row} {row : α} :
    row ∈ (t.updateWhere hit f keeps).rows ↔ ∃ old ∈ t.rows, (if hit old then f old else old) = row :=
  mem_modify

theorem mem_deleteWhere {row : α} : row ∈ (t.deleteWhere hit).rows ↔ row ∈ t.rows ∧ ¬hit row := by
  simp [deleteWhere, mem_filter]

theorem countWhere_eq_zero : t.countWhere hit = 0 ↔ ∀ row ∈ t.rows, ¬hit row := by
  simp [countWhere]

end Where

variable [DecidableEq κ]

def find? (t : Table key) (k : κ) : Option α := t.rows.find? fun row => decide (key row = k)

def replaceWith (key : α → κ) (row old : α) : α := if key old = key row then row else old

theorem key_replaceWith (row old : α) : key (replaceWith key row old) = key old := by
  unfold replaceWith
  split_ifs with same
  · exact same.symm
  · rfl

def save (t : Table key) (row : α) : Table key := t.modify (replaceWith key row) (key_replaceWith row)

def insert (t : Table key) (row : α) : Table key :=
  if fresh : key row ∈ t.rows.map key then t
  else ⟨t.rows ++ [row], by
    rw [List.map_append, List.map_singleton, ← List.concat_eq_append]
    exact t.unique.concat fresh⟩

variable {t : Table key} {k : κ} {row other : α}

theorem find?_eq_some : t.find? k = some row ↔ row ∈ t.rows ∧ key row = k := by
  constructor
  · intro found
    exact ⟨List.mem_of_find?_eq_some found, by simpa using List.find?_some found⟩
  · rintro ⟨mem, rfl⟩
    cases found : t.find? (key row) with
    | none => simpa using List.find?_eq_none.mp found row mem
    | some first =>
      have first_mem := List.mem_of_find?_eq_some found
      have first_key : key first = key row := by simpa using List.find?_some found
      rw [eq_of_key first_mem mem first_key]

theorem find?_eq_none : t.find? k = none ↔ ∀ row ∈ t.rows, key row ≠ k := by
  simp [find?]

theorem find?_modify (f : α → α) (keeps : ∀ row, key (f row) = key row) :
    (t.modify f keeps).find? k = (t.find? k).map f := by
  simp only [find?, modify, List.find?_map, Function.comp_def, keeps]

theorem find?_updateWhere (changed : κ) (f : α → α) (keeps : ∀ row, key (f row) = key row) :
    (t.updateWhere (fun row => key row = changed) f keeps).find? k = if k =
      changed then (t.find? k).map f else t.find? k := by
  rw [updateWhere, find?_modify]
  cases found : t.find? k with
  | none => simp
  | some =>
    have row_key := (find?_eq_some.mp found).2
    simp only [Option.map_some, row_key]
    split_ifs <;> rfl

theorem find?_save : (t.save row).find? k =
    if k = key row then (t.find? k).map fun _ => row else t.find? k := by
  rw [save, find?_modify]
  cases found : t.find? k with
  | none => simp
  | some =>
    have old_key := (find?_eq_some.mp found).2
    simp only [Option.map_some, replaceWith, old_key]
    split_ifs <;> rfl

theorem find?_save_of_some {old} (found : t.find? k = some old) (same : key row = k) (other : κ) :
    (t.save row).find? other = if other = k then some row else t.find? other := by
  rw [find?_save, same]
  split_ifs with equal
  · rw [equal, found]
    rfl
  · rfl

theorem mem_save : other ∈ (t.save row).rows ↔
    (other = row ∧ ∃ old ∈ t.rows, key old = key row) ∨ (other ∈ t.rows ∧ key other ≠ key row) := by
  rw [save, mem_modify]
  constructor
  · rintro ⟨old, mem, rfl⟩
    unfold replaceWith
    split_ifs with same
    · exact .inl ⟨rfl, old, mem, same⟩
    · exact .inr ⟨mem, same⟩
  · rintro (⟨rfl, old, mem, same⟩ | ⟨mem, ne⟩)
    · exact ⟨old, mem, by rw [replaceWith, if_pos same]⟩
    · exact ⟨other, mem, by rw [replaceWith, if_neg ne]⟩

theorem rows_save (found : t.find? (key row) = some other) :
    ∃ before after, t.rows = before ++ other :: after ∧ (t.save row).rows = before ++ row :: after := by
  obtain ⟨mem, same⟩ := find?_eq_some.mp found
  obtain ⟨before, after, split⟩ := List.append_of_mem mem
  have distinct := t.unique
  rw [split, List.map_append, List.map_cons, List.nodup_append] at distinct
  obtain ⟨-, tail, apart⟩ := distinct
  have kept : ∀ old, key old ≠ key other → replaceWith key row old = old := by
    intro old ne
    rw [replaceWith, if_neg (same ▸ ne)]
  refine ⟨before, after, split, ?_⟩
  change t.rows.map (replaceWith key row) = _
  rw [split, List.map_append, List.map_cons]
  congr 1
  · refine (List.map_congr_left fun old old_mem => ?_).trans (List.map_id _)
    exact kept old fun equal => apart (key old) (List.mem_map_of_mem old_mem) (key other) (by simp) equal
  · congr 1
    · rw [replaceWith, if_pos same]
    · refine (List.map_congr_left fun old old_mem => ?_).trans (List.map_id _)
      exact kept old fun equal => (List.nodup_cons.mp tail).1 (equal ▸ List.mem_map_of_mem old_mem)

theorem save_self (mem : row ∈ t.rows) : t.save row = t := by
  apply ext
  change t.rows.map (replaceWith key row) = t.rows
  conv_rhs => rw [← List.map_id t.rows]
  apply List.map_congr_left
  intro _ old_mem
  unfold replaceWith
  split_ifs with same
  · exact List.inj_on_of_nodup_map t.unique mem old_mem same.symm
  · rfl

theorem save_save (same : key other = key row) : (t.save row).save other = t.save other := by
  apply ext
  change (t.rows.map (replaceWith key row)).map (replaceWith key other) = t.rows.map (replaceWith key other)
  rw [List.map_map]
  apply List.map_congr_left
  intro _ _
  simp only [Function.comp_apply, replaceWith, same]
  split_ifs <;> simp_all

theorem insert_rows (fresh : t.find? (key row) = none) : (t.insert row).rows = t.rows ++ [row] := by
  have absent : key row ∉ t.rows.map key := by
    rw [List.mem_map]
    rintro ⟨old, mem, same⟩
    exact find?_eq_none.mp fresh old mem same
  rw [insert, dif_neg absent]

theorem mem_insert (mem : other ∈ (t.insert row).rows) : other ∈ t.rows ∨ other = row := by
  unfold insert at mem
  split_ifs at mem with present
  · exact .inl mem
  · simpa using mem

theorem mem_insert_of_mem (mem : other ∈ t.rows) : other ∈ (t.insert row).rows := by
  unfold insert
  split_ifs
  · exact mem
  · exact List.mem_append_left _ mem

theorem find?_insert (fresh : t.find? (key row) = none) : (t.insert row).find? k =
    if k = key row then some row else t.find? k := by
  unfold find?
  rw [insert_rows fresh, List.find?_append]
  split_ifs with same
  · subst same
    rw [show t.rows.find? (fun r => decide (key r = key row)) = none from fresh]
    simp
  · have skip : [row].find? (fun r => decide (key r = k)) = none := by
      simp [Ne.symm same]
    rw [skip, Option.or_none]

theorem find?_insert_of_some (found : t.find? k = some other) : (t.insert row).find? k = some other := by
  cases fresh : t.find? (key row) with
  | none =>
    rw [find?_insert fresh, if_neg, found]
    rintro rfl
    rw [fresh] at found
    cases found
  | some old =>
    obtain ⟨mem, same⟩ := find?_eq_some.mp fresh
    rw [insert, dif_pos (List.mem_map.mpr ⟨old, mem, same⟩), found]

/-! `INSERT … ON CONFLICT DO NOTHING` of several rows. -/

def insertAll (t : Table key) (rows : List α) : Table key := rows.foldl insert t

theorem mem_insertAll {rows} (mem : other ∈ (t.insertAll rows).rows) : other ∈ t.rows ∨ other ∈ rows := by
  induction rows generalizing t with
  | nil => exact .inl mem
  | cons _ _ ih =>
    rcases ih mem with earlier | later
    · rcases mem_insert earlier with old | rfl
      · exact .inl old
      · exact .inr (by simp)
    · exact .inr (by simp [later])

theorem mem_insertAll_of_mem {rows} (mem : other ∈ t.rows) : other ∈ (t.insertAll rows).rows := by
  induction rows generalizing t with
  | nil => exact mem
  | cons _ _ ih => exact ih (mem_insert_of_mem mem)

theorem insertAll_covers {rows} (mem : other ∈ rows) : ∃ kept ∈ (t.insertAll rows).rows, key kept = key other := by
  induction rows generalizing t with
  | nil => cases mem
  | cons _ rows ih =>
    rcases List.mem_cons.mp mem with rfl | later
    · show ∃ kept ∈ ((t.insert other).insertAll rows).rows, key kept = key other
      cases fresh : t.find? (key other) with
      | none => exact ⟨other, mem_insertAll_of_mem (by simp [insert_rows fresh]), rfl⟩
      | some old =>
        obtain ⟨among, same⟩ := find?_eq_some.mp fresh
        exact ⟨old, mem_insertAll_of_mem (mem_insert_of_mem among), same⟩
    · exact ih later

theorem mem_insertAll_iff {rows} (fresh : ∀ row ∈ rows, ∀ old ∈ t.rows, key old ≠ key row)
    (apart : ∀ one ∈ rows, ∀ two ∈ rows, key one = key two → one = two) :
    other ∈ (t.insertAll rows).rows ↔ other ∈ t.rows ∨ other ∈ rows := by
  constructor
  · exact mem_insertAll
  · rintro (old | new)
    · exact mem_insertAll_of_mem old
    · obtain ⟨kept, mem, same⟩ := insertAll_covers (t := t) new
      rcases mem_insertAll mem with old | listed
      · exact absurd same (fresh other new kept old)
      · rwa [apart kept listed other new same] at mem

end Table
end NewApi.Library
