import NewApi.Common.Text

/-!
# Model mapping

`InitChannelMeta` and `ModelMappedHelper` over the fields they share. The unbounded loop over the chain runs on fuel.
-/

namespace NewApi.Relay
open Common

structure MappingInfo where
  (originModelName upstreamModelName : String)
  isModelMapped : Bool
deriving DecidableEq

def initChannelMeta (originModelName : String) : MappingInfo := ⟨originModelName, originModelName, false⟩

abbrev ModelMap := List (String × String)

/-- The channel's `model_mapping`: empty, not a JSON object of strings, or its entries. -/
inductive ModelMapping where
  | unset | malformed | entries (modelMap : ModelMap)

inductive ChainExit where
  | cycle | unmapped | last (model : String) (isModelMapped : Bool)

def followMapping (modelMap : ModelMap) (originModelName : String) :
    Nat → List String → String → Bool → Option ChainExit
  | 0, _, _, _ => none
  | fuel + 1, visitedModels, currentModel, isModelMapped =>
    match modelMap.lookup currentModel with
    | none => some (.last currentModel isModelMapped)
    | some mappedModel =>
      if mappedModel = "" then some (.last currentModel isModelMapped)
      else if mappedModel ∈ visitedModels then
        if mappedModel = currentModel then
          if currentModel = originModelName then some .unmapped else some (.last currentModel true)
        else some .cycle
      else followMapping modelMap originModelName fuel (mappedModel :: visitedModels) mappedModel true

def compactModelSuffix : String := "-openai-compact"

def withCompactModelSuffix (modelName : String) : String :=
  if hasSuffix modelName compactModelSuffix then modelName else modelName ++ compactModelSuffix

def finishMapping (compact : Bool) (mappingModelName : String) (info : MappingInfo) : MappingInfo :=
  if compact then
    let finalModel := if info.isModelMapped ∧ info.upstreamModelName ≠
      "" then info.upstreamModelName else mappingModelName
    { info with upstreamModelName := finalModel, originModelName := withCompactModelSuffix finalModel }
  else info

def modelMappedHelper (fuel : Nat) (compact : Bool) (mapping : ModelMapping) (info : MappingInfo) :
    Option (Except String MappingInfo) :=
  let mappingModelName := if compact then trimSuffix info.originModelName compactModelSuffix else info.originModelName
  match mapping with
  | .unset => some (.ok (finishMapping compact mappingModelName info))
  | .malformed => some (.error "unmarshal_model_mapping_failed")
  | .entries modelMap =>
    (followMapping modelMap info.originModelName fuel [mappingModelName] mappingModelName info.isModelMapped).map fun
      | .cycle => .error "model_mapping_contains_cycle"
      | .unmapped => .ok { info with isModelMapped := false }
      | .last model true => .ok (finishMapping compact mappingModelName ⟨info.originModelName, model, true⟩)
      | .last _ false => .ok (finishMapping compact mappingModelName { info with isModelMapped := false })

def compactAttempts (fuel : Nat) : List ModelMapping → String → Option String
  | [], originModelName => some originModelName
  | mapping :: mappings, originModelName =>
    match modelMappedHelper fuel true mapping (initChannelMeta originModelName) with
    | some (.ok info) => compactAttempts fuel mappings info.originModelName
    | _ => none

end NewApi.Relay
