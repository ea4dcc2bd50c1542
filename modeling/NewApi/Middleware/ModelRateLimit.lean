import Mathlib.Algebra.Order.Ring.Int

/-!
# The token bucket of the total request limit

`rate_limit.lua` over the hash of one key and the options that `redisRateLimitHandler` gives it. Times are the whole
seconds of the Redis server. Lua computes in doubles, exact while the numbers stay below 2^53.
-/

namespace NewApi.Middleware

structure LimiterConfig where
  capacity : Int := 10
  (rate requested : Int := 1)

structure Bucket where
  (tokens lastTime : Int)
deriving DecidableEq, Repr

variable (config : LimiterConfig)

def refill (now : Int) : Option Bucket → Int
  | none => config.capacity
  | some bucket => min config.capacity (bucket.tokens + (now - bucket.lastTime) * config.rate)

def allow (bucket : Option Bucket) (now : Int) : Bool × Bucket :=
  let tokens := refill config now bucket
  if tokens ≥ config.requested then (true, ⟨tokens - config.requested, now⟩) else (false, ⟨tokens, now⟩)

def totalLimit (totalMaxCount duration : Int) : LimiterConfig :=
  { capacity := totalMaxCount * duration, rate := totalMaxCount, requested := duration }

variable (totalMaxCount duration : Int)

/-- The times, out of `times`, at which `redisRateLimitHandler` lets requests of one user past the
total limit. A `totalMaxCount` of 0 turns it off. -/
def admitted : Option Bucket → List Int → List Int
  | _, [] => []
  | bucket, now :: times =>
    if totalMaxCount > 0 then
      match allow (totalLimit totalMaxCount duration) bucket now with
      | (true, after) => now :: admitted (some after) times
      | (false, after) => admitted (some after) times
    else now :: admitted bucket times

end NewApi.Middleware
