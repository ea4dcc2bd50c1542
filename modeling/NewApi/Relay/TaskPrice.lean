import NewApi.Relay.Price

/-!
# Prices of asynchronous tasks

A task is priced by the call before it is submitted and may be charged anew by its tokens when it is done.
-/

namespace NewApi.Relay
open Common

structure TaskPriceEnv where
  relay : RelayEnv
  defaultModelPrice : String → Option Rat
  taskPricePatches : List String

structure CallPrice extends PriceData where
  quota : Int := 0
deriving DecidableEq

def addOtherRatios (ratios : List (String × Rat)) (price : PriceData) : PriceData :=
  ratios.foldl (fun price entry => price.addOtherRatio entry.1 entry.2) price

section Submit
variable (env : TaskPriceEnv) (ctx : RelayContext) (info : RelayInfo)

def modelPriceHelperPerCall : Except PriceError CallPrice := do
  let (info, group) := handleGroupRatio env.relay ctx info
  let free (price : Rat) : Bool := !env.relay.enableFreeModelPreConsume &&
    (decide (group.groupRatio = 0) || decide (price = 0))
  match (env.relay.modelPrice info.originModelName).or (env.defaultModelPrice info.originModelName) with
  | some modelPrice =>
    let quota ← (strictQuota (quotaFromFloatChecked (modelPrice * env.relay.quotaPerUnit *
      group.groupRatio))).mapError .clamped
    return { freeModel := free modelPrice, modelPrice := modelPrice, usePrice := true, groupRatioInfo := group
             quota := if free modelPrice then 0 else quota }
  | none =>
    let (modelRatio, set, matchName) := env.relay.modelRatio info.originModelName
    if !set && !info.acceptUnsetRatioModel then throw (.notConfigured matchName)
    -- Half of the model ratio stands for the price.
    let quota ← (strictQuota (quotaFromFloatChecked (modelRatio / 2 * env.relay.quotaPerUnit *
      group.groupRatio))).mapError .clamped
    return { freeModel := free modelRatio, modelPrice := -1, modelRatio := modelRatio, groupRatioInfo := group
             quota := if free modelRatio then 0 else quota }

def maxTaskDurationSeconds : Int := 3600

inductive OriginBilling where
  | context (otherRatios : List (String × Rat))
  | taskData (seconds : Int) (size : String)

def resolveOriginTask (origin : OriginBilling) : RelayInfo :=
  { info with priceData := addOtherRatios (match origin with
      | .context otherRatios => otherRatios
      | .taskData seconds size =>
        let seconds := min (if seconds ≤ 0 then 4 else seconds) maxTaskDurationSeconds
        [("seconds", (seconds : Rat)), ("size", 1)] ++
          if size = "1792x1024" ∨ size = "1024x1792" then [("size", 1666667 / 1000000)] else []) info.priceData }

structure TaskRequest where
  (seconds duration : Int)
  size : String

def soraEstimateBilling (remix : Bool) (request : Option TaskRequest) : List (String × Rat) :=
  if remix then []
  else match request with
  | none => []
  | some request =>
    let seconds := if request.seconds = 0 then request.duration else request.seconds
    let seconds := if seconds ≤ 0 then 4 else seconds
    let size := if request.size = "" then "720x1280" else request.size
    [("seconds", (seconds : Rat)), ("size", if size = "1792x1024" ∨ size = "1024x1792" then 1666667 / 1000000 else 1)]

def relayTaskPrice (estimated : List (String × Rat)) : Except PriceError CallPrice := do
  let base ← modelPriceHelperPerCall env ctx info
  let price : CallPrice := { base with toPriceData := addOtherRatios estimated base.toPriceData }
  if env.taskPricePatches.contains info.originModelName then return price
  else return { price with quota := (quotaFromFloatChecked (price.applyOtherRatios price.quota)).1 }

end Submit

structure PricedTask where
  (group originModelName : String)
  groupRatio : Rat
  otherRatios : List (String × Rat)

def pricedTask (info : RelayInfo) (price : PriceData) : PricedTask :=
  ⟨info.usingGroup, info.originModelName, price.groupRatioInfo.groupRatio, price.otherRatios⟩

section Recalculate
variable (env : RelayEnv)

def recalculationGroup (user : Option String) (task : PricedTask) : String :=
  if task.group = "" then user.getD "" else task.group

def recalculationRatio (group : String) : Rat := (env.groupGroupRatio group group).getD (env.groupRatio group)

def quotaByTokens (user : Option String) (task : PricedTask) (totalTokens : Int) : Option Int :=
  let (modelRatio, set, _) := env.modelRatio task.originModelName
  let group := recalculationGroup user task
  if totalTokens ≤ 0 ∨ set = false ∨ modelRatio ≤ 0 ∨ group = "" then none
  else
    let price := addOtherRatios task.otherRatios {}
    some (quotaFromFloatChecked (price.applyOtherRatios (totalTokens * modelRatio * recalculationRatio env group))).1

end Recalculate
end NewApi.Relay
