import Mathlib.Logic.Function.Basic

/-!
# The rate limiter in memory

An initialised `InMemoryRateLimiter`: the queue of each key, old to new. Times and durations are in seconds.
-/

namespace NewApi.Common

abbrev LimiterStore := String → Option (List Int)

inductive LimiterAnswer where
  | accepted | rejected
  | panicked
deriving DecidableEq

namespace LimiterStore
variable (store : LimiterStore)

def clearExpiredItems (expirationDuration now : Int) : LimiterStore := fun key =>
  (store key).filter fun queue => queue.getLast?.any fun last => now - last ≤ expirationDuration

def request (key : String) (maxRequestNum duration now : Int) : LimiterAnswer × LimiterStore :=
  match store key with
  | some queue =>
    if queue.length < maxRequestNum then (.accepted, Function.update store key (some (queue ++ [now])))
    else match queue with
      | [] => (.panicked, store)
      | oldest :: rest =>
        if now - oldest ≥ duration then (.accepted, Function.update store key
          (some (rest ++ [now]))) else (.rejected, store)
  | none => if maxRequestNum < 0 then (.panicked, store) else (.accepted, Function.update store key (some [now]))

end LimiterStore

inductive LimiterEvent where
  | request (key : String) (maxRequestNum duration now : Int)
  | clear (now : Int)

def LimiterEvent.now : LimiterEvent → Int
  | .request _ _ _ now | .clear now => now

def LimiterEvent.isRequest : LimiterEvent → Bool
  | .request .. => true
  | .clear _ => false

/-- The limiter next to the times at which it accepted requests of `key`, old to new. -/
def limiterStep (expirationDuration : Int) (key : String) (state : LimiterStore × List Int) :
    LimiterEvent → LimiterStore × List Int
  | .request other maxRequestNum duration now =>
    let (answer, store) := state.1.request other maxRequestNum duration now
    (store, if other = key ∧ answer = .accepted then state.2 ++ [now] else state.2)
  | .clear now => (state.1.clearExpiredItems expirationDuration now, state.2)

end NewApi.Common
