import NewApi.Model.SystemTask

/-!
# The runners of system tasks

A runner claims one task after another, and works on each in a goroutine with a heartbeat that
renews the lock. Creations, cleanups and the work on tasks overlap as they like.
-/

namespace NewApi.Service
open Library Model

def systemTaskLockTTL : Int := 60

def systemTaskLockUntil (clock : Int) : Int := clock + systemTaskLockTTL

def Dispatched (race : SystemTaskRace) (taskId runnerId : String) : Prop :=
  ∃ id rowId type lockUntil past task, race.threads id =
    some ⟨.claim rowId type runnerId lockUntil, past, .done (.ok (some task))⟩ ∧
    task.taskId = taskId

def Claims (race : SystemTaskRace) (runnerId : String) (id : Nat) : Prop :=
  ∃ rowId type lockUntil past statement next,
    race.threads id = some ⟨.claim rowId type runnerId lockUntil, past, .call statement next⟩

def Serviced (race : SystemTaskRace) : SystemTaskEvent → Prop
  | .call _ (.claim _ _ runnerId lockUntil) => lockUntil = systemTaskLockUntil race.shared.clock ∧
      ∀ id, ¬Claims race runnerId id
  | .call _ (.renew taskId lockedBy lockUntil) =>
    lockUntil = systemTaskLockUntil race.shared.clock ∧ Dispatched race taskId lockedBy
  | .call _ (.updateState taskId lockedBy _) => Dispatched race taskId lockedBy
  | .call _ (.finish taskId lockedBy _ _ _) => Dispatched race taskId lockedBy
  | .call _ (.expireStale now) => now = race.shared.clock
  | .call _ (.release _ _) | .call _ (.markExpired _) => False
  | _ => True

end NewApi.Service
