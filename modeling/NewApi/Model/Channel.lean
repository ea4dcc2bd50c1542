import NewApi.Library.Run
import NewApi.Model.Ability

/-!
# Administration of channels

Each operation changes the rows of channels and then brings the abilities up to date, anew from the
rows or by the id of the channel or its tag.
-/

namespace NewApi.Model
open Common Library

variable (env : ChannelEnv)

def arrayKeys (key : String) : Option (List String) :=
  if (trimSpace key).toList.head? = some '[' then env.rawArray (trimSpace key) else none

def lineKeys (key : String) : List String := splitText (trimChar key '\n') '\n'

def Channel.getKeys (channel : Channel) : List String :=
  if channel.key = "" then [] else (arrayKeys env channel.key).getD (lineKeys channel.key)

def updateKeys (key : String) : List String :=
  if key = "" then []
  else
    match (arrayKeys env key).getD [] with
    | [] => lineKeys key
    | keys => keys

def Channel.withDefaults (channel : Channel) (id : ℕ+) : Channel :=
  { channel with
    id := id
    status := if channel.status = 0 then channelStatusEnabled else channel.status
    weight := some channel.getWeight
    group := if channel.group = "" then "default" else channel.group
    priority := some channel.getPriority }

def Channel.insert (channel : Channel) (id : ℕ+) (db : ChannelDb) : ChannelDb :=
  let row := channel.withDefaults id
  match db.channels.find? id with
  | some _ => db
  | none => { channels := db.channels.insert row, abilities := row.addAbilities db.abilities }

def Channel.updates (row channel : Channel) : Channel where
  id := row.id
  type := if channel.type = 0 then row.type else channel.type
  key := if channel.key = "" then row.key else channel.key
  status := if channel.status = 0 then row.status else channel.status
  weight := channel.weight.or row.weight
  baseURL := channel.baseURL.or row.baseURL
  models := if channel.models = "" then row.models else channel.models
  group := if channel.group = "" then row.group else channel.group
  usedQuota := if channel.usedQuota = 0 then row.usedQuota else channel.usedQuota
  priority := channel.priority.or row.priority
  tag := channel.tag.or row.tag
  channelInfo := if channel.channelInfo = {} then row.channelInfo else channel.channelInfo
  otherSettings := if channel.otherSettings = "" then row.otherSettings else channel.otherSettings

def Channel.countKeys (db : ChannelDb) (channel : Channel) : Channel :=
  if channel.channelInfo.isMultiKey then
    let key := if channel.key ≠ "" then channel.key else ((db.channels.find? channel.id).map (·.key)).getD ""
    let size := (updateKeys env key).length
    { channel with channelInfo := { channel.channelInfo with
        multiKeySize := size
        multiKeyStatusList := channel.channelInfo.multiKeyStatusList.filter fun entry => entry.1 < size } }
  else channel

def Channel.update (channel : Channel) (db : ChannelDb) : ChannelDb :=
  let channel := channel.countKeys env db
  let channels := db.channels.updateWhere (·.id = channel.id) (fun row => row.updates channel) fun _ => rfl
  { channels := channels, abilities := ((channels.find? channel.id).getD channel).updateAbilities db.abilities }

def hasEnabledMultiKey (keys : List String) (statusList : List (Nat × Int)) : Bool :=
  (List.range keys.length).any fun index => (statusList.lookup index).all (· = channelStatusEnabled)

def handlerMultiKeyUpdate (channel : Channel) (usingKey : String) (status : Int) : Channel :=
  let keys := channel.getKeys env
  if keys = [] then { channel with status := status }
  else
    match keys.findIdx? (· = usingKey) with
    | none => if usingKey ≠ "" then channel else { channel with status := status }
    | some index =>
      let others := channel.channelInfo.multiKeyStatusList.filter fun entry => entry.1 ≠ index
      let list := if status = channelStatusEnabled then others else (index, status) :: others
      { channel with
        channelInfo := { channel.channelInfo with multiKeyStatusList := list }
        status :=
          if hasEnabledMultiKey keys list = false then channelStatusAutoDisabled
          else if status = channelStatusEnabled then channelStatusEnabled
          else channel.status }

def updateChannelStatus (channelId : ℕ+) (usingKey : String) (status : Int) (db : ChannelDb) : ChannelDb × Bool :=
  match db.channels.find? channelId with
  | none => (db, false)
  | some channel =>
    if channel.status = status then (db, false)
    else
      let updated := if channel.channelInfo.isMultiKey then handlerMultiKeyUpdate env channel
        usingKey status else { channel with status := status }
      let shouldUpdateAbilities := !channel.channelInfo.isMultiKey || channel.status ≠ updated.status
      ({ channels := db.channels.save updated
         abilities := if shouldUpdateAbilities then updateAbilityStatus channelId
           (status = channelStatusEnabled) db.abilities else db.abilities },
        true)

def setStatusByTag (tag : String) (status : Int) (db : ChannelDb) : ChannelDb where
  channels := db.channels.updateWhere (·.tag = some tag) (fun channel => { channel with status := status }) fun _ => rfl
  abilities := updateAbilityStatusByTag tag (status = channelStatusEnabled) db.abilities

def enableChannelByTag (tag : String) : ChannelDb → ChannelDb := setStatusByTag tag channelStatusEnabled

def disableChannelByTag (tag : String) : ChannelDb → ChannelDb := setStatusByTag tag channelStatusManuallyDisabled

structure TagEdit where
  (newTag models group : Option String := none)
  priority : Option Int := none
  weight : Option Nat := none

namespace TagEdit
variable (edit : TagEdit)

def shouldReCreateAbilities : Bool := (edit.models.filter (· ≠ "")).isSome || (edit.group.filter (· ≠ "")).isSome

def updatedTag (tag : String) : String := edit.newTag.getD tag

def apply (channel : Channel) : Channel :=
  { channel with
    tag := edit.newTag.or channel.tag
    models := (edit.models.filter (· ≠ "")).getD channel.models
    group := (edit.group.filter (· ≠ "")).getD channel.group
    priority := edit.priority.or channel.priority
    weight := edit.weight.or channel.weight }

def channels (tag : String) (db : ChannelDb) : Table Channel.id :=
    db.channels.updateWhere (·.tag = some tag) edit.apply fun _ => rfl

end TagEdit

def editChannelByTag (tag : String) (edit : TagEdit) (db : ChannelDb) : ChannelDb :=
  let channels := edit.channels tag db
  { channels := channels
    abilities :=
      if edit.shouldReCreateAbilities then
        (channels.filter fun channel => channel.tag = some (edit.updatedTag tag)).rows.foldl
          (fun abilities channel => channel.updateAbilities abilities) db.abilities
      else updateAbilityByTag tag edit.newTag edit.priority edit.weight db.abilities }

def batchSetChannelTag (ids : List ℕ+) (tag : Option String) (db : ChannelDb) : ChannelDb where
  channels := db.channels.updateWhere (·.id ∈ ids) (fun channel => { channel with tag := tag }) fun _ => rfl
  abilities := (db.channels.filter fun channel => channel.id ∈ ids).rows.foldl
    (fun abilities channel => channel.updateAbilities abilities) db.abilities

def batchDeleteChannels (ids : List ℕ+) (db : ChannelDb) : ChannelDb where
  channels := db.channels.deleteWhere (·.id ∈ ids)
  abilities := db.abilities.deleteWhere (·.channelId ∈ ids)

def deleteDisabledChannel (db : ChannelDb) : ChannelDb :=
  { db with channels := db.channels.deleteWhere fun channel =>
      channel.status = channelStatusAutoDisabled ∨ channel.status = channelStatusManuallyDisabled }

inductive AdminOp where
  | insert (channel : Channel) (id : ℕ+)
  | update (channel : Channel)
  | updateStatus (channelId : ℕ+) (usingKey : String) (status : Int)
  | enableByTag (tag : String)
  | disableByTag (tag : String)
  | editByTag (tag : String) (edit : TagEdit)
  | batchSetTag (ids : List ℕ+) (tag : Option String)
  | batchDelete (ids : List ℕ+)
  | deleteDisabled
  | fixAbility

def adminStep (env : ChannelEnv) (db : ChannelDb) : AdminOp → ChannelDb
  | .insert channel id => channel.insert id db
  | .update channel => channel.update env db
  | .updateStatus channelId usingKey status => (updateChannelStatus env channelId usingKey status db).1
  | .enableByTag tag => enableChannelByTag tag db
  | .disableByTag tag => disableChannelByTag tag db
  | .editByTag tag edit => editChannelByTag tag edit db
  | .batchSetTag ids tag => batchSetChannelTag ids tag db
  | .batchDelete ids => batchDeleteChannels ids db
  | .deleteDisabled => deleteDisabledChannel db
  | .fixAbility => fixAbility db

def administer (env : ChannelEnv) : ChannelDb → List AdminOp → ChannelDb := run (adminStep env)

end NewApi.Model
