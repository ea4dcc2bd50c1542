import Mathlib.Data.List.Basic

/-!
# Tokens and their cache

The row of one token, its entry in Redis, and the cache writes that background goroutines have yet to make. Writes
of the cache succeed.
-/

namespace NewApi.Model

inductive TokenStatus where
  | enabled
  | disabled
  | expired
  | exhausted
  | other (code : Int)
deriving DecidableEq

structure Token where
  status : TokenStatus
  (expiredTime remainQuota : Int)
  unlimitedQuota : Bool

structure CacheWrite where
  token : Option Token
  own : Bool

inductive Revocation where
  | delete
  | update (token : Token) (revoked : token.status ≠ .enabled)

def Revocation.token : Revocation → Option Token
  | .delete => none
  | .update token _ => some token

inductive RevocationStage where
  | waiting | committed | returned
deriving DecidableEq

structure TokenState where
  (row cache : Option Token)
  pending : List CacheWrite := []
  stage : RevocationStage := .waiting

inductive TokenEvent where
  | read
  | commit
  | deferred
  | write (index : Nat)
  | expire

namespace TokenState
variable (revocation : Revocation) (state : TokenState)

def step : TokenEvent → TokenState
  | .read =>
    match state.row with
    | none => state
    | some token => { state with pending := state.pending ++ [⟨some token, false⟩] }
  | .commit => if state.stage = .waiting then { state with row := revocation.token, stage := .committed } else state
  | .deferred =>
    if state.stage = .committed then
      { state with pending := state.pending ++ [⟨revocation.token, true⟩], stage := .returned }
    else state
  | .write index =>
    match state.pending[index]? with
    | none => state
    | some write => { state with cache := write.token, pending := state.pending.eraseIdx index }
  | .expire => { state with cache := none }

end TokenState

def Token.valid (now : Int) (token : Token) : Bool :=
  decide (token.status = .enabled) && !(decide (token.expiredTime ≠ -1) && decide (token.expiredTime < now)) &&
    (token.unlimitedQuota || decide (0 < token.remainQuota))

def validateUserToken (now : Int) (looked read : TokenState) : Bool :=
  match looked.cache with
  | some token => token.valid now
  | none => read.row.any (Token.valid now)

end NewApi.Model
