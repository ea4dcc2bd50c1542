import NewApi.Model.Channel

/-!
# Keys of a channel

The keys of a channel in multi-key mode have a status each. Requests take the enabled ones in turn or at random; an
administrator disables and enables them by index.
-/

namespace NewApi.Model
open Library

variable (info : ChannelInfo)

def ChannelInfo.keyStatus (index : Nat) : Int := (info.multiKeyStatusList.lookup index).getD channelStatusEnabled

def ChannelInfo.setKeyStatus (index : Nat) (status : Int) : ChannelInfo :=
  { info with multiKeyStatusList := (index, status) :: info.multiKeyStatusList.filter fun entry => entry.1 ≠ index }

def ChannelInfo.clearKeyStatus (index : Nat) : ChannelInfo :=
  { info with multiKeyStatusList := info.multiKeyStatusList.filter fun entry => entry.1 ≠ index }

structure SelectedKey where
  key : String
  index : Nat
  channel : Channel

def enabledIndexes (keys : List String) (info : ChannelInfo) : List Nat :=
  (List.range keys.length).filter fun index => info.keyStatus index = channelStatusEnabled

def nextIndex (size : Nat) (enabled : List Nat) (start : Nat) : Option Nat :=
  ((List.range size).map fun offset => (start + offset) % size).find? (· ∈ enabled)

/-- `saved` is the polling index of the cached or stored channel, if there is one. `draw` is what
the random number is made of. -/
def Channel.getNextEnabledKey (env : ChannelEnv) (channel : Channel) (saved : Option Int)
    (draw : Nat) : Except String SelectedKey :=
  if channel.channelInfo.isMultiKey = false then .ok ⟨channel.key, 0, channel⟩
  else
    let keys := channel.getKeys env
    if keys = [] then .error "no keys available"
    else
      match enabledIndexes keys channel.channelInfo with
      | [] => .error "no enabled keys"
      | first :: rest =>
        let select (index : Nat) (channel : Channel) : Except String SelectedKey :=
          .ok ⟨(keys[index]?).getD "", index, channel⟩
        match channel.channelInfo.multiKeyMode with
        | .random => select ((first :: rest)[draw % (rest.length + 1)]?.getD first) channel
        | .polling =>
          match saved with
          | none => .error "record not found"
          | some saved =>
            let start := if saved < 0 ∨ keys.length ≤ saved then 0 else saved.toNat
            match nextIndex keys.length (first :: rest) start with
            | some index => select index { channel with channelInfo := { channel.channelInfo with
                multiKeyPollingIndex := ((index + 1) % keys.length : Nat) } }
            | none => select first channel
        | .unset => select first channel

inductive KeyAction where
  | disableKey (index : Option Int)
  | enableKey (index : Option Int)
  | enableAllKeys
  | disableAllKeys

def keyIndex (index : Option Int) : Option Nat :=
  index.bind fun index => if index < 0 ∨ info.multiKeySize ≤ index then none else some index.toNat

def KeyAction.apply : KeyAction → Option ChannelInfo
  | .disableKey index => (keyIndex info index).map fun index => info.setKeyStatus index channelStatusManuallyDisabled
  | .enableKey index => (keyIndex info index).map info.clearKeyStatus
  | .enableAllKeys => some { info with multiKeyStatusList := [] }
  | .disableAllKeys =>
    let enabled := (List.range info.multiKeySize).filter fun index => info.keyStatus index = channelStatusEnabled
    if enabled = [] then none
    else some (enabled.foldl (fun info index => info.setKeyStatus index channelStatusManuallyDisabled) info)

end NewApi.Model
