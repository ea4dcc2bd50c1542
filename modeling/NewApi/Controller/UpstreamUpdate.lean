import NewApi.Common.Text

/-!
# Upstream model updates

The channel is its stored model list and the settings that the update keeps. Regular expressions are
left to the environment; the time of the check and failing writes are left out.
-/

namespace NewApi.Controller
open Common

def getModels (models : String) : List String := if models = "" then [] else splitText (trimChar models ',') ','

def normalizeModelNames (models : List String) : List String := ((models.map trimSpace).filter (· ≠ "")).eraseDups

def mergeModelNames (base appended : List String) : List String :=
  normalizeModelNames base ++ (normalizeModelNames appended).filter (· ∉ normalizeModelNames base)

def subtractModelNames (base removed : List String) : List String :=
  (normalizeModelNames base).filter (· ∉ normalizeModelNames removed)

def intersectModelNames (base allowed : List String) : List String :=
  (normalizeModelNames base).filter (· ∈ normalizeModelNames allowed)

def applySelectedModelChanges (originModels addModels removeModels : List String) : List String :=
  subtractModelNames (mergeModelNames originModels (normalizeModelNames addModels))
    (subtractModelNames (normalizeModelNames removeModels) (normalizeModelNames addModels))

def ignores (matchString : String → String → Bool) (ignoredModel modelName : String) : Bool :=
  if hasPrefix ignoredModel "regex:" then matchString (trimSpace (String.ofList (ignoredModel.toList.drop 6))) modelName
  else ignoredModel = modelName

def collectPendingUpstreamModelChangesFromModels (matchString : String → String → Bool)
    (localModels upstreamModels ignoredModels : List String) (modelMapping : List (String × String)) :
    List String × List String :=
  (normalizeModelNames ((normalizeModelNames upstreamModels).filter fun modelName =>
      !(modelName ∈ normalizeModelNames localModels || modelName ∈ modelMapping.map Prod.snd) &&
        !(normalizeModelNames ignoredModels).any (ignores matchString · modelName)),
    normalizeModelNames ((normalizeModelNames localModels).filter fun modelName =>
      !(modelName ∈ modelMapping.map Prod.fst) && !(modelName ∈ normalizeModelNames upstreamModels)))

structure UpstreamChannel where
  models : String
  (ignoredModels lastDetectedModels lastRemovedModels : List String)

def applyChannelUpstreamModelUpdates (channel : UpstreamChannel)
    (addModelsInput ignoreModelsInput removeModelsInput : List String) :
    UpstreamChannel :=
  let pendingAddModels := normalizeModelNames channel.lastDetectedModels
  let pendingRemoveModels := normalizeModelNames channel.lastRemovedModels
  let addModels := intersectModelNames addModelsInput pendingAddModels
  let ignoreModels := intersectModelNames ignoreModelsInput pendingAddModels
  let removeModels := subtractModelNames (intersectModelNames removeModelsInput pendingRemoveModels) addModels
  let originModels := normalizeModelNames (getModels channel.models)
  let nextModels := applySelectedModelChanges originModels addModels removeModels
  let ignoredModels := mergeModelNames channel.ignoredModels ignoreModels
  { models := if originModels = nextModels then channel.models else ",".intercalate nextModels
    ignoredModels := if addModels.isEmpty then ignoredModels else subtractModelNames ignoredModels addModels
    lastDetectedModels := subtractModelNames pendingAddModels (addModels ++ ignoreModels)
    lastRemovedModels := subtractModelNames pendingRemoveModels removeModels }

end NewApi.Controller
