import Mathlib.Algebra.Order.BigOperators.Group.List
import Mathlib.Algebra.Order.Group.Int
import Mathlib.Algebra.Ring.Int.Defs
import Mathlib.Data.List.Nodup

/-!
# Ledgers

What has been charged for each of a list of keys. Posting adds an amount to a key.
-/

namespace NewApi.Library
open List

abbrev Ledger (κ : Type) := List (κ × Int)

namespace Ledger
variable {κ : Type}

def keys (ledger : Ledger κ) : List κ := ledger.map Prod.fst

def total (ledger : Ledger κ) : Int := (ledger.map Prod.snd).sum

def Nonneg (ledger : Ledger κ) : Prop := ∀ entry ∈ ledger, 0 ≤ entry.2

theorem total_nonneg {ledger : Ledger κ} (nonneg : ledger.Nonneg) : 0 ≤ ledger.total := by
  apply sum_nonneg
  intro _ mem
  obtain ⟨entry, posted, rfl⟩ := mem_map.mp mem
  exact nonneg entry posted

variable [DecidableEq κ]

def post (key : κ) (amount : Int) : Ledger κ → Ledger κ
  | [] => [(key, amount)]
  | (other, net) :: rest => if other = key then (other, net + amount) :: rest else (other, net) :: post key amount rest

def net (key : κ) : Ledger κ → Int
  | [] => 0
  | (other, net) :: rest => if other = key then net else Ledger.net key rest

variable {key other : κ} {amount : Int} {ledger : Ledger κ}

theorem total_post : (post key amount ledger).total = ledger.total + amount := by
  induction ledger with
  | nil => simp [post, total]
  | cons entry _ ih =>
    rcases entry with ⟨_, _⟩
    simp only [total, post, map_cons, sum_cons] at ih ⊢
    split_ifs
    · simp only [map_cons, sum_cons]
      omega
    · simp only [map_cons, sum_cons, ih]
      omega

theorem mem_keys_post : other ∈ (post key amount ledger).keys ↔ other = key ∨ other ∈ ledger.keys := by
  induction ledger with
  | nil => simp [post, keys]
  | cons entry _ ih =>
    rcases entry with ⟨_, _⟩
    simp only [keys, post, map_cons, mem_cons] at ih ⊢
    split_ifs with same
    · simp [same]
    · simp only [map_cons, mem_cons, ih]
      tauto

theorem nodup_keys_post (distinct : ledger.keys.Nodup) : (post key amount ledger).keys.Nodup := by
  induction ledger with
  | nil => simp [post, keys]
  | cons entry _ ih =>
    rcases entry with ⟨_, _⟩
    obtain ⟨apart, distinct⟩ := nodup_cons.mp distinct
    unfold post
    split_ifs with same
    · exact nodup_cons.mpr ⟨apart, distinct⟩
    · refine nodup_cons.mpr ⟨fun posted => ?_, ih distinct⟩
      rcases mem_keys_post.mp posted with equal | mem
      · exact same equal
      · exact apart mem

theorem nonneg_post (nonneg : ledger.Nonneg) (covered : 0 ≤ ledger.net key + amount) :
    (post key amount ledger).Nonneg := by
  induction ledger with
  | nil => simpa [post, net, Nonneg] using covered
  | cons entry _ ih =>
    rcases entry with ⟨_, _⟩
    obtain ⟨head, tail⟩ := forall_mem_cons.mp nonneg
    simp only [net] at covered
    unfold post
    split_ifs at covered ⊢ with same
    · exact forall_mem_cons.mpr ⟨covered, tail⟩
    · exact forall_mem_cons.mpr ⟨head, ih tail covered⟩

theorem net_nonneg (nonneg : ledger.Nonneg) : 0 ≤ ledger.net key := by
  induction ledger with
  | nil => exact le_rfl
  | cons entry _ ih =>
    rcases entry with ⟨_, _⟩
    obtain ⟨head, tail⟩ := forall_mem_cons.mp nonneg
    simp only [net]
    split_ifs
    · exact head
    · exact ih tail

theorem net_of_not_mem (absent : key ∉ ledger.keys) : ledger.net key = 0 := by
  induction ledger with
  | nil => rfl
  | cons entry _ ih =>
    rcases entry with ⟨_, _⟩
    simp only [keys, map_cons, mem_cons, not_or] at absent
    rw [net, if_neg (Ne.symm absent.1)]
    exact ih absent.2

theorem net_post : (post key amount ledger).net other = ledger.net other + if other = key then amount else 0 := by
  induction ledger with
  | nil => simp [post, net, eq_comm]
  | cons entry _ ih =>
    rcases entry with ⟨first, _⟩
    unfold post
    by_cases same : first = key
    · subst same
      by_cases asked : first = other
      · simp [net, asked]
      · simp [net, asked, Ne.symm asked]
    · rw [if_neg same, net, net, ih]
      by_cases asked : first = other
      · subst asked
        simp [same]
      · simp [asked]

theorem sum_entries (distinct : ledger.keys.Nodup) :
    (ledger.map fun entry => if key = entry.1 then entry.2 else 0).sum = ledger.net key := by
  induction ledger with
  | nil => rfl
  | cons entry _ ih =>
    rcases entry with ⟨first, _⟩
    obtain ⟨apart, distinct⟩ := nodup_cons.mp distinct
    rw [map_cons, sum_cons, ih distinct, net]
    by_cases same : first = key
    · subst same
      simp [net_of_not_mem apart]
    · simp [same, Ne.symm same]

end Ledger
end NewApi.Library
