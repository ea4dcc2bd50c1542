import Mathlib.Data.List.Basic

/-!
# Errors and retries

Whether a failed attempt is repeated is decided from its error alone.
-/

namespace NewApi.Relay

structure NewAPIError where
  errorCode : String
  statusCode : Int := 500
  (skipRetry marked : Bool := false)
deriving DecidableEq

namespace NewAPIError

def isChannelError (err : NewAPIError) : Bool := "channel:".toList <+: err.errorCode.toList

def isViolationFeeCode (err : NewAPIError) : Bool := "violation_fee.".toList <+: err.errorCode.toList

end NewAPIError

def resetStatusCode (mapping : Int → Option Int) (err : NewAPIError) : NewAPIError :=
  if err.statusCode = 200 then err else { err with statusCode := (mapping err.statusCode).getD err.statusCode }

def normalizeViolationFeeError (err : NewAPIError) : NewAPIError :=
  if err.marked then { err with errorCode := "violation_fee.grok.csam", skipRetry := true }
  else if err.isViolationFeeCode then { err with skipRetry := true }
  else err

def automaticRetryStatusCodeRanges : List (Int × Int) :=
  [(100, 199), (300, 399), (401, 407), (409, 499), (500, 503), (505, 523), (525, 599)]

def isAlwaysSkipRetryStatusCode (code : Int) : Bool := code = 504 ∨ code = 524

def isAlwaysSkipRetryCode (errorCode : String) : Bool := errorCode = "bad_response_body"

def matchStatusCodeRanges (code : Int) : List (Int × Int) → Bool
  | [] => false
  | (start, stop) :: ranges => if code < start then false else if code ≤
      stop then true else matchStatusCodeRanges code ranges

def shouldMatchStatusCodeRanges (ranges : List (Int × Int)) (code : Int) : Bool :=
  if code < 100 ∨ 599 < code then false else matchStatusCodeRanges code ranges

def shouldRetryByStatusCode (ranges : List (Int × Int)) (code : Int) : Bool :=
  if isAlwaysSkipRetryStatusCode code then false else shouldMatchStatusCodeRanges ranges code

structure RetryPolicy where
  retryTimes : Nat
  retryRanges : List (Int × Int) := automaticRetryStatusCodeRanges
  (specificChannel affinitySkipRetry : Bool := false)

def shouldRetry (policy : RetryPolicy) (err : NewAPIError) (retryTimes : Int) : Bool :=
  if policy.affinitySkipRetry then false
  else if err.isChannelError then true
  else if err.skipRetry then false
  else if retryTimes ≤ 0 then false
  else if policy.specificChannel then false
  else if 200 ≤ err.statusCode ∧ err.statusCode < 300 then false
  else if err.statusCode < 100 ∨ 599 < err.statusCode then true
  else if isAlwaysSkipRetryCode err.errorCode then false
  else shouldRetryByStatusCode policy.retryRanges err.statusCode

end NewApi.Relay
