import Mathlib.Data.Finset.Card
import NewApi.Controller.OrderLock
import NewApi.Library.Run

/-!
# Order locks exclude each other

The entry of an order stays while goroutines are counted for it, so all of them mean the same mutex.
-/

namespace NewApi.Proof
open Controller Library

def inside : Place → Bool
  | .loading | .storing | .counting _ | .leaving _ | .releasing _ | .deleting _ | .closing => true
  | _ => false

def counted : Place → Bool
  | .leaving _ | .waiting _ | .holding | .finding | .unlocking _ | .relocking _ | .releasing _ => true
  | _ => false

/-- Between the return of `mu.Lock` and `mu.Unlock`. -/
def owns : Place → Bool
  | .holding | .finding | .unlocking _ => true
  | _ => false

def pointer : Place → Option Nat
  | .counting rcm | .leaving rcm | .waiting rcm | .unlocking rcm | .relocking rcm | .releasing
      rcm | .deleting rcm => some rcm
  | _ => none

@[grind →] theorem counted_of_owns {place} (own : owns place = true) : counted place = true := by
  cases place <;> first | rfl | cases own

@[grind →] theorem counted_or_inside {place rcm} (points : pointer place = some rcm) :
    counted place = true ∨ inside place = true := by
  cases place <;> first | exact .inl rfl | exact .inr rfl | cases points

section Locks
variable {G : Type} {createLock : Option (G × String)} {order : OrderEntry G}

/-- What holds of a goroutine at `place`. `members` are those counted for the order, `owner` has its mutex. -/
def Stands (createLock : Option (G × String)) (tradeNo : String) (entry : Option Nat)
    (members : Finset G) (owner : Option G)
    (g : G) (place : Place) : Prop :=
  (inside place = true ↔ createLock = some (g, tradeNo)) ∧ (∀ rcm, pointer place = some rcm → entry = some rcm) ∧
    (counted place = true → entry ≠ none) ∧ (place = .storing → entry = none) ∧ (g ∈ members ↔ counted place = true) ∧
    (owner = some g ↔ owns place = true)

structure Kept (createLock : Option (G × String)) (tradeNo : String) (order : OrderEntry G) (members : Finset G)
    (owner : Option G) : Prop where
  stands : ∀ g, Stands createLock tradeNo order.entry members owner g (order.places g)
  refCount : ∀ rcm, order.entry = some rcm → (order.mutexes rcm).refCount = members.card
  locked : ∀ rcm, order.entry = some rcm → (order.mutexes rcm).locked = owner.isSome
  used : order.entry ≠ none → members = ∅ → ∃ g, createLock = some (g, tradeNo) ∧ pointer (order.places g) ≠ none

def AllKept (locks : OrderLocks G) : Prop :=
  ∀ tradeNo, ∃ members owner, Kept locks.createLock tradeNo (locks.orders tradeNo) members owner

variable [DecidableEq G]

/-- A move changes the facts of one goroutine, `own`. -/
theorem allKept_move {locks : OrderLocks G} (kept : AllKept locks) {call : G × String} {place} (members owner)
    (own : Stands createLock call.2 order.entry members owner call.1 place := by
      simp [Stands, inside, counted, owns, pointer] <;> grind)
    (rest : ∀ h ≠ call.1, Stands createLock call.2 order.entry members owner h (order.places h) := by grind [Stands])
    (refCount : ∀ rcm, order.entry = some rcm → (order.mutexes rcm).refCount =
    members.card := by grind [Function.update_apply])
    (locked : ∀ rcm, order.entry = some rcm → (order.mutexes rcm).locked =
    owner.isSome := by grind [Function.update_apply])
    (used : order.entry ≠ none → members = ∅ → ∃ g, createLock = some (g, call.2) ∧
      pointer (Function.update order.places call.1 place g) ≠ none := by grind [Function.update_apply, pointer])
    (others : ∀ other, other.2 ≠ call.2 → (createLock = some other ↔ locks.createLock = some other) := by grind) :
    AllKept (locks.move call createLock order place) := by
  intro tradeNo
  rcases eq_or_ne tradeNo call.2 with rfl | ne
  · refine ⟨members, owner, ?_⟩
    simp only [OrderLocks.move, Function.update_self]
    refine ⟨fun h => ?_, refCount, locked, used⟩
    rcases eq_or_ne h call.1 with rfl | ne
    · simpa using own
    · simpa [ne] using rest h ne
  · obtain ⟨members, owner, kept⟩ := kept tradeNo
    refine ⟨members, owner, ?_⟩
    rw [show (locks.move call createLock order place).orders tradeNo = locks.orders tradeNo from
      Function.update_of_ne ne _ _]
    have same := fun g => others (g, tradeNo) ne
    exact { kept with
      stands := fun g => by simpa only [Stands, OrderLocks.move, same] using kept.stands g
      used := fun present empty => by simpa [OrderLocks.move, same] using kept.used present empty }

theorem allKept_step {locks : OrderLocks G} (call) (kept : AllKept locks) : AllKept (orderStep locks call) := by
  obtain ⟨members, owner, stands, refCount, locked, used⟩ := kept call.2
  obtain ⟨g, tradeNo⟩ := call
  have own := stands g
  unfold orderStep
  dsimp only [OrderEntry.write] at *
  cases place : (locks.orders tradeNo).places g with simp [place, Stands, inside, counted, owns, pointer] at own
  | outside | holding => exact allKept_move kept members owner
  | loading | finding =>
    dsimp only
    split <;> exact allKept_move kept members owner
  | locking | relocking =>
    dsimp only
    split_ifs
    · exact allKept_move kept members owner
    · exact kept
  | storing => exact allKept_move kept ∅ none
  | counting rcm => exact allKept_move kept (insert g members) owner
  | leaving | closing => exact allKept_move kept members owner
  | waiting rcm =>
    dsimp only
    split_ifs
    · exact kept
    · exact allKept_move kept members (some g)
  | unlocking rcm => exact allKept_move kept members none
  | releasing rcm =>
    have mem : g ∈ members := by grind [Stands, counted, pointer]
    have card := Finset.card_erase_add_one mem
    exact allKept_move kept (members.erase g) owner
  | deleting rcm =>
    dsimp only
    split_ifs with zero
    -- Nobody is counted, so nobody means the entry.
    · have empty : members = ∅ := by grind [Stands, pointer]
      exact allKept_move kept ∅ owner
    · exact allKept_move kept members owner

theorem orderLocks_exclusive (calls : List (G × String)) (tradeNo) :
    let locks := run orderStep {} calls
    let order := locks.orders tradeNo
    (∀ g h, owns (order.places g) = true → owns (order.places h) = true → g = h) ∧
      (∀ g, order.places g = .finding → order.entry ≠ none) ∧
      (∀ g rcm, order.places g = .unlocking rcm → (order.mutexes rcm).locked = true) ∧
      (∀ g, (∃ rcm, order.places g = .leaving rcm) ∨ order.places g = .closing → locks.createLock = some (g, tradeNo)) ∧
      ((∀ g, order.places g = .outside) → order.entry = none) := by
  have start : AllKept (G := G) {} := fun _ =>
    ⟨∅, none, by constructor <;> simp [Stands, inside, counted, owns, pointer]⟩
  intro locks order
  obtain ⟨members, owner, stands, refCount, locked, used⟩ :=
    show ∃ members owner, Kept locks.createLock tradeNo order members owner from
      run_preserves AllKept (fun _ => allKept_step) start calls tradeNo
  clear_value locks order
  simp only [Stands] at stands
  refine ⟨by grind, by grind [counted], by grind [owns, pointer], by grind [inside], fun quiet => ?_⟩
  by_contra present
  have empty : members = ∅ := Finset.eq_empty_of_forall_notMem (by grind [counted])
  obtain ⟨g, -, points⟩ := used present empty
  exact points (by rw [quiet]; rfl)

/-! ## Progress -/

theorem stuck_step {locks : OrderLocks G} {call : G × String} (stuck : orderStep locks call = locks) :
    let order := locks.orders call.2
    inside (order.places call.1) = false ∧ owns (order.places call.1) = false ∧
      (locks.createLock ≠ none ∨ ∃ rcm, order.places call.1 = .waiting rcm ∧ (order.mutexes rcm).locked = true) := by
  have same := congrArg (fun locks => (locks.orders call.2).places call.1) stuck
  unfold orderStep at same
  cases place : (locks.orders call.2).places call.1 with simp only [place] at same ⊢
  | locking | relocking =>
    split_ifs at same with free
    · simp [OrderLocks.move] at same
    · exact ⟨rfl, rfl, .inl free⟩
  | waiting =>
    split_ifs at same with taken
    · exact ⟨rfl, rfl, .inr ⟨_, rfl, taken⟩⟩
    · simp [OrderLocks.move] at same
  | loading | finding => split at same <;> simp [OrderLocks.move] at same
  | _ => simp [OrderLocks.move] at same

/-- The goroutine is in the two calls for no other order, as the callers have it. -/
def OneOrder (locks : OrderLocks G) (call : G × String) : Prop :=
  ∀ tradeNo ≠ call.2, (locks.orders tradeNo).places call.1 = .outside

def AllOneOrder (locks : OrderLocks G) : Prop :=
  ∀ call : G × String, (locks.orders call.2).places call.1 ≠ .outside → OneOrder locks call

theorem places_step (locks : OrderLocks G) {call other : G × String} (apart : other ≠ call) :
    ((orderStep locks call).orders other.2).places other.1 = (locks.orders other.2).places other.1 := by
  have move (createLock) {order : OrderEntry G} (place) (same : order.places = (locks.orders call.2).places) :
      ((locks.move call createLock order place).orders other.2).places other.1 =
        (locks.orders other.2).places other.1 := by
    rcases eq_or_ne other.2 call.2 with order | order
    · have goroutine : other.1 ≠ call.1 := fun same => apart (Prod.ext same order)
      simp [OrderLocks.move, order, goroutine, same]
    · simp [OrderLocks.move, order]
  unfold orderStep
  dsimp only
  split <;> first | exact move _ _ rfl | split_ifs <;> first | rfl | exact move _ _ rfl

theorem allOneOrder_step {locks : OrderLocks G} (call) (single : AllOneOrder locks) (allowed : OneOrder locks call) :
    AllOneOrder (orderStep locks call) := by
  intro other entered tradeNo ne
  by_cases own : other = call
  · subst own
    rw [@places_step _ _ locks _ (other.1, tradeNo) fun same => ne (congrArg Prod.snd same)]
    exact allowed tradeNo ne
  · rw [places_step locks own] at entered
    by_cases here : (other.1, tradeNo) = call
    · subst here
      exact absurd (allowed other.2 ne.symm) entered
    · rw [places_step locks here]
      exact single other entered tradeNo ne

end Locks

end NewApi.Proof
