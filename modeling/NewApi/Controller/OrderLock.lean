import Mathlib.Logic.Function.Basic

/-!
# Order locks

`LockOrder` and `UnlockOrder` in single steps. A goroutine stands somewhere in the two calls for
each order. The objects of one order are numbered as they are allocated.
-/

namespace NewApi.Controller

structure RefCountedMutex where
  locked : Bool := false
  refCount : Int := 0

inductive Place where
  | outside | locking | loading | storing
  | counting (rcm : Nat)
  | leaving (rcm : Nat)
  | waiting (rcm : Nat)
  | holding | finding
  | unlocking (rcm : Nat)
  | relocking (rcm : Nat)
  | releasing (rcm : Nat)
  | deleting (rcm : Nat)
  | closing

structure OrderEntry (G : Type) where
  entry : Option Nat := none
  mutexes : Nat → RefCountedMutex := fun _ => {}
  allocated : Nat := 0
  places : G → Place := fun _ => .outside

structure OrderLocks (G : Type) where
  createLock : Option (G × String) := none
  orders : String → OrderEntry G := fun _ => {}

variable {G : Type} [DecidableEq G]

def OrderEntry.write (order : OrderEntry G) (rcm : Nat) (mutex : RefCountedMutex) : OrderEntry G :=
  { order with mutexes := Function.update order.mutexes rcm mutex }

def OrderLocks.move (locks : OrderLocks G) (call : G × String) (createLock : Option (G × String)) (order : OrderEntry G)
    (place : Place) : OrderLocks G :=
  ⟨createLock, Function.update locks.orders call.2 { order with places := Function.update order.places call.1 place }⟩

/-- The next step of a goroutine for an order; one that has to wait leaves everything as it is. -/
def orderStep (locks : OrderLocks G) (call : G × String) : OrderLocks G :=
  let order := locks.orders call.2
  let go := locks.move call locks.createLock
  match order.places call.1 with
  | .outside => go order .locking
  | .locking => if locks.createLock = none then locks.move call (some call) order .loading else locks
  | .loading => go order (match order.entry with | some rcm => .counting rcm | none => .storing)
  | .storing =>
    go { order.write order.allocated {} with entry := some order.allocated, allocated := order.allocated + 1 }
      (.counting order.allocated)
  | .counting rcm =>
      go (order.write rcm { order.mutexes rcm with refCount := (order.mutexes rcm).refCount + 1 })
      (.leaving rcm)
  | .leaving rcm => locks.move call none order (.waiting rcm)
  | .waiting rcm =>
    if (order.mutexes rcm).locked then locks else go (order.write rcm
      { order.mutexes rcm with locked := true }) .holding
  | .holding => go order .finding
  | .finding => go order (match order.entry with | some rcm => .unlocking rcm | none => .outside)
  | .unlocking rcm => go (order.write rcm { order.mutexes rcm with locked := false }) (.relocking rcm)
  | .relocking rcm => if locks.createLock = none then locks.move call (some call) order (.releasing rcm) else locks
  | .releasing rcm =>
      go (order.write rcm { order.mutexes rcm with refCount := (order.mutexes rcm).refCount - 1 })
      (.deleting rcm)
  | .deleting rcm => go (if (order.mutexes rcm).refCount = 0 then { order with entry := none } else order) .closing
  | .closing => locks.move call none order .outside

end NewApi.Controller
