import NewApi.Model.Ability

/-!
# Selection of a channel

The group `auto` of a token stands for a list of groups. It is gone through from the group of the
last selection on, and the first group with a channel is taken.
-/

namespace NewApi.Service
open Model

structure RetryParam where
  (tokenGroup modelName requestPath : String)
  retry : Nat := 0
  resetNextTry : Bool := false

namespace RetryParam

def increaseRetry (param : RetryParam) : RetryParam :=
  if param.resetNextTry then { param with resetNextTry := false } else { param with retry := param.retry + 1 }

def resetRetryNextTry (param : RetryParam) : RetryParam := { param with resetNextTry := true }

end RetryParam

structure AutoContext where
  userGroup : String := ""
  tokenCrossGroupRetry : Bool := false
  autoGroup : Option String := none
  autoGroupIndex : Option Nat := none

structure SelectSettings where
  retryTimes : Nat
  autoGroups : List String
  userAutoGroups : String → List String

structure SelectedChannel where
  channel : Except String (Option Channel)
  group : String
  index : Nat
  ctx : AutoContext
  param : RetryParam

/-- The groups from the `index` on. `pick` is what `GetRandomSatisfiedChannel` answers for a group
and a retry, none for an error. Past the first group the retry starts again. -/
def selectAutoGroup (settings : SelectSettings) (pick : String → Nat → Except String (Option Channel)) (start : Nat) :
    List String → Nat → AutoContext → RetryParam → SelectedChannel
  | [], index, ctx, param => ⟨.ok none, param.tokenGroup, index, ctx, param⟩
  | autoGroup :: rest, index, ctx, param =>
    let priorityRetry := if start < index then 0 else param.retry
    match (pick autoGroup priorityRetry).toOption.join with
    | none => selectAutoGroup settings pick start rest (index + 1)
        { ctx with autoGroupIndex := some (index + 1) } { param with retry := 0 }
    | some channel =>
      let ctx := { ctx with autoGroup := some autoGroup }
      if ctx.tokenCrossGroupRetry && settings.retryTimes ≤ priorityRetry then
        ⟨.ok (some channel), autoGroup, index, { ctx with autoGroupIndex := some (index + 1) },
          { param with retry := 0 }.resetRetryNextTry⟩
      else ⟨.ok (some channel), autoGroup, index, { ctx with autoGroupIndex := some index }, param⟩

def cacheGetRandomSatisfiedChannel (settings : SelectSettings)
    (pick : String → Nat → Except String (Option Channel)) (ctx : AutoContext)
    (param : RetryParam) : SelectedChannel :=
  if param.tokenGroup = "auto" then
    if settings.autoGroups = [] then ⟨.error "auto groups is not enabled", param.tokenGroup, 0, ctx, param⟩
    else
      let start := ctx.autoGroupIndex.getD 0
      selectAutoGroup settings pick start ((settings.userAutoGroups ctx.userGroup).drop start) start ctx param
  else ⟨pick param.tokenGroup param.retry, param.tokenGroup, 0, ctx, param⟩

end NewApi.Service
