import Mathlib.Logic.Function.Basic
import NewApi.Common.Text

/-!
# Channel affinity

Requests of one rule, with the affinity value the rule has taken from them. Values are trimmed and
not empty, and a binding may go at any time.
-/

namespace NewApi.Service
open Common

structure ChannelAffinityRule where
  name : String
  (includeUsingGroup includeModelName includeRuleName : Bool)

structure AffinityRequest where
  (modelName usingGroup affinityValue : String)
deriving DecidableEq

abbrev AffinityCache := String → Option Int

def channelAffinityCacheNamespace : String := "new-api:channel_affinity:v1"

def fullKey (key : String) : String :=
  let key := trimSpace key
  let start := channelAffinityCacheNamespace ++ ":"
  if key = "" then "" else if hasPrefix key start then key else start ++ String.ofList (key.toList.dropWhile (· = ':'))

def AffinityCache.get (cache : AffinityCache) (key : String) : Option Int :=
  if fullKey key = "" then none else cache (fullKey key)

def AffinityCache.set (cache : AffinityCache) (key : String) (binding : Option Int) : AffinityCache :=
  if fullKey key = "" then cache else Function.update cache (fullKey key) binding

variable (rule : ChannelAffinityRule)

def buildChannelAffinityCacheKeySuffix (request : AffinityRequest) : String :=
  let parts := if rule.includeRuleName ∧ rule.name ≠ "" then [rule.name] else []
  let parts := if rule.includeModelName ∧ request.modelName ≠ "" then parts ++ [request.modelName] else parts
  let parts := if rule.includeUsingGroup ∧ request.usingGroup ≠ "" then parts ++ [request.usingGroup] else parts
  ":".intercalate (parts ++ [request.affinityValue])

def cacheKeyFull (request : AffinityRequest) : String :=
  channelAffinityCacheNamespace ++ ":" ++ buildChannelAffinityCacheKeySuffix rule request

-- The lookup is by the suffix, and what is recorded or cleared goes by the full key.
def getPreferredChannelByAffinity (cache : AffinityCache) (request : AffinityRequest) : Option Int :=
  cache.get (buildChannelAffinityCacheKeySuffix rule request)

/-- `RecordChannelAffinity` with a channel, `ClearCurrentChannelAffinityCache` without. -/
def bindChannelAffinity (cache : AffinityCache) : AffinityRequest × Option Int → AffinityCache
  | (request, binding) => cache.set (cacheKeyFull rule request) binding

end NewApi.Service
