import NewApi.Common.Calendar
import NewApi.Common.Text
import NewApi.Library.Table
import Mathlib.Algebra.GroupWithZero.Nat
import Mathlib.Data.PNat.Defs

/-!
# Channels and abilities

The row of a channel lists groups and models, and the abilities have a row for every pair of them,
with copies of its status, priority, weight and tag. Requests are routed by the abilities.
-/

namespace NewApi.Model
open Common Library

def channelStatusEnabled : Int := 1

def channelStatusManuallyDisabled : Int := 2

def channelStatusAutoDisabled : Int := 3

def channelTypeAdvancedCustom : Int := 58

inductive MultiKeyMode where
  | unset | random | polling
deriving DecidableEq

structure ChannelInfo where
  isMultiKey : Bool := false
  multiKeySize : Nat := 0
  multiKeyStatusList : List (Nat × Int) := []
  multiKeyPollingIndex : Int := 0
  multiKeyMode : MultiKeyMode := .unset
deriving DecidableEq

structure Channel where
  id : ℕ+
  type : Int := 0
  key : String := ""
  status : Int := 0
  weight : Option Nat := none
  baseURL : Option String := none
  (models group : String := "")
  usedQuota : Int := 0
  priority : Option Int := none
  tag : Option String := none
  channelInfo : ChannelInfo := {}
  otherSettings : String := ""
deriving DecidableEq

structure Ability where
  (group model : String)
  channelId : ℕ+
  enabled : Bool
  priority : Int
  weight : Nat
  tag : Option String
deriving DecidableEq

def Ability.key (ability : Ability) : String × String × ℕ+ := (ability.group, ability.model, ability.channelId)

abbrev AbilityTable := Table Ability.key

structure ChannelDb where
  channels : Table Channel.id
  abilities : AbilityTable

/-- `rawArray` are the elements of a JSON array as written. `supportsPathForModel` says whether the
settings of an advanced custom channel have a route. -/
structure ChannelEnv where
  rawArray : String → Option (List String) := fun _ => none
  supportsPathForModel : String → String → String → Bool := fun _ _ _ => true

namespace Channel
variable (channel : Channel)

def getPriority : Int := channel.priority.getD 0

def getWeight : Nat := channel.weight.getD 0

def modelNames : List String := splitText channel.models ','

def groupNames : List String := splitText channel.group ','

def ability (group model : String) : Ability where
  group := group
  model := model
  channelId := channel.id
  enabled := channel.status = channelStatusEnabled
  priority := channel.getPriority
  weight := channel.getWeight
  tag := channel.tag

def pairs : List (String × String) := channel.modelNames.flatMap fun model =>
    channel.groupNames.map fun group => (group, model)

def pairKey (pair : String × String) : String := pair.1 ++ "|" ++ pair.2

def distinctPairs : Table pairKey := Table.empty.insertAll channel.pairs

def addAbilities (abilities : AbilityTable) : AbilityTable :=
  abilities.insertAll (channel.distinctPairs.rows.map fun pair => channel.ability pair.1 pair.2)

def updateAbilities (abilities : AbilityTable) : AbilityTable :=
  channel.addAbilities (abilities.deleteWhere fun ability => ability.channelId = channel.id)

end Channel

def updateAbilityStatus (channelId : ℕ+) (status : Bool) (abilities : AbilityTable) : AbilityTable :=
  abilities.updateWhere (·.channelId = channelId) (fun ability => { ability with enabled := status }) fun _ => rfl

def updateAbilityStatusByTag (tag : String) (status : Bool) (abilities : AbilityTable) : AbilityTable :=
  abilities.updateWhere (·.tag = some tag) (fun ability => { ability with enabled := status }) fun _ => rfl

def updateAbilityByTag (tag : String) (newTag : Option String) (priority : Option Int)
    (weight : Option Nat) (abilities : AbilityTable) :
    AbilityTable :=
  abilities.updateWhere (·.tag = some tag) (fun ability => { ability with
    tag := newTag.or ability.tag
    priority := priority.getD ability.priority
    weight := if weight.getD 0 = 0 then ability.weight else weight.getD 0 }) fun _ => rfl

def fixAbility (db : ChannelDb) : ChannelDb :=
  { db with abilities := db.channels.rows.foldl (fun abilities channel =>
    channel.updateAbilities abilities) Table.empty }

section Routing
variable (env : ChannelEnv) (db : ChannelDb) (group model : String)

def enabledAbilities : AbilityTable :=
  db.abilities.filter fun ability => ability.group = group ∧ ability.model = model ∧ ability.enabled = true

def getPriority (retry : Nat) : Except String Int :=
  let priorities := ((enabledAbilities db group model).rows.map (·.priority)).dedup.insertionSort (· ≥ ·)
  match priorities.getLast? with
  | none => .error "数据库一致性被破坏"
  | some lowest => .ok (priorities[retry]?.getD lowest)

def getChannelQuery (retry : Nat) : Except String AbilityTable :=
  let enabled := enabledAbilities db group model
  if retry = 0 then .ok (enabled.filter fun ability => (enabled.rows.map (·.priority)).max? = some ability.priority)
  else do
    let priority ← getPriority db group model retry
    return enabled.filter fun ability => ability.priority = priority

def filterAbilitiesByRequestPathAndModel (abilities : List Ability) (requestPath : String) : List Ability :=
  if requestPath = "" then abilities
  else abilities.filter fun ability =>
    match db.channels.find? ability.channelId with
    | some channel => channel.type ≠ channelTypeAdvancedCustom || env.supportsPathForModel
        channel.otherSettings requestPath model
    | none => true

def pickAbility : List Ability → Int → Option Ability
  | [], _ => none
  | ability :: abilities, weight =>
    let weight := wrap64 (weight - (ability.weight + 10))
    if weight ≤ 0 then some ability else pickAbility abilities weight

/-- A sum of `uint`s, as the `int` that `rand.Intn` is given. -/
def weightSum (abilities : List Ability) : Int :=
  wrap64 ((abilities.map fun ability => ability.weight + 10).sum : Nat)

def getChannel (retry : Nat) (requestPath : String) (draw : Nat) : Except String (Option Channel) := do
  let found ← getChannelQuery db group model retry
  let abilities := filterAbilitiesByRequestPathAndModel env db model
    (found.orderBy fun one two => two.weight ≤ one.weight).rows requestPath
  if abilities = [] then return none
  else if weightSum abilities ≤ 0 then throw "invalid argument to Intn"
  else match (pickAbility abilities (draw % weightSum abilities)).bind fun ability =>
    db.channels.find? ability.channelId with
  | some channel => return some channel
  | none => throw "record not found"

end Routing

end NewApi.Model
