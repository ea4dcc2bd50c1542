import NewApi.Library.Run
import NewApi.Service.ChannelAffinity

/-!
# Affinity keys stay apart

A key is its parts with colons between them, so it determines the parts once it is known how many
colons the model and the group have.
-/

namespace NewApi.Proof
open Common Library Service List
variable {rule : ChannelAffinityRule} {request other : AffinityRequest}

theorem parts_eq {α : Type} [BEq α] [LawfulBEq α] {separator : α} {first second rest rest' : List α}
    (same : first ++ separator :: rest = second ++ separator :: rest')
    (often : first.count separator = second.count separator) :
    first = second ∧ rest = rest' := by
  induction first generalizing second with
  | nil => cases second <;> grind
  | cons _ _ ih =>
    cases second with
    | nil => grind
    | cons _ second => grind [@ih second]

structure Keyed (rule : ChannelAffinityRule) (request : AffinityRequest) : Prop where
  named : rule.includeRuleName = true
  model : rule.includeModelName = true ∧ request.modelName ≠ ""
  group : rule.includeUsingGroup = true ∧ request.usingGroup ≠ ""

theorem suffix_toList (keyed : Keyed rule request) : (buildChannelAffinityCacheKeySuffix rule request).toList =
    (if rule.name = "" then [] else rule.name.toList ++ [':']) ++
      (request.modelName.toList ++ ':' :: (request.usingGroup.toList ++ ':' :: request.affinityValue.toList)) := by
  by_cases unnamed : rule.name = "" <;> simp [buildChannelAffinityCacheKeySuffix, keyed.named,
    keyed.model, keyed.group, unnamed]

abbrev SameColons (request other : AffinityRequest) : Prop :=
  request.modelName.toList.count ':' = other.modelName.toList.count ':' ∧
    request.usingGroup.toList.count ':' = other.usingGroup.toList.count ':'

theorem suffix_injective (keyed : Keyed rule request) (keyed' : Keyed rule other) (colons : SameColons request other)
    (same : buildChannelAffinityCacheKeySuffix rule request =
    buildChannelAffinityCacheKeySuffix rule other) : request = other := by
  have joined := congrArg String.toList same
  rw [suffix_toList keyed, suffix_toList keyed', append_cancel_left_eq] at joined
  obtain ⟨model, joined⟩ := parts_eq joined colons.1
  obtain ⟨group, value⟩ := parts_eq joined colons.2
  cases request
  cases other
  simp_all [String.toList_inj]

/-- The cache takes nothing off the key, so a request reads where it writes. -/
abbrev Stable (rule : ChannelAffinityRule) (request : AffinityRequest) : Prop :=
  fullKey (buildChannelAffinityCacheKeySuffix rule request) = cacheKeyFull rule request ∧
    fullKey (cacheKeyFull rule request) = cacheKeyFull rule request

theorem preferred_bind {cache binding} (stable : Stable rule request) (stable' : Stable rule other)
    (apart : buildChannelAffinityCacheKeySuffix rule request ≠ buildChannelAffinityCacheKeySuffix rule other) :
    getPreferredChannelByAffinity rule (bindChannelAffinity rule cache (other, binding)) request =
      getPreferredChannelByAffinity rule cache request := by
  simp only [getPreferredChannelByAffinity, bindChannelAffinity, AffinityCache.get,
    AffinityCache.set, stable.1, stable'.2]
  simp [cacheKeyFull, apart]

/-- One key comes from one request just if the models and the groups have as many colons, and then
what other requests bind is not told to this one. -/
theorem affinityKeys_apart (keyed : Keyed rule request) :
    (∀ other, Keyed rule other → buildChannelAffinityCacheKeySuffix rule request =
      buildChannelAffinityCacheKeySuffix rule other →
      (request = other ↔ SameColons request other)) ∧
    (Stable rule request → ∀ cache events,
      (∀ event ∈ events, Keyed rule event.1 ∧ Stable rule event.1 ∧ SameColons request event.1 ∧ event.1 ≠ request) →
      getPreferredChannelByAffinity rule (run (bindChannelAffinity rule) cache events) request =
        getPreferredChannelByAffinity rule cache request) := by
  refine ⟨fun other keyed' same => ⟨?_, fun colons => suffix_injective keyed keyed' colons same⟩,
    fun stable cache events others => ?_⟩
  · rintro rfl
    exact ⟨rfl, rfl⟩
  · induction events generalizing cache with
    | nil => rfl
    | cons event _ ih =>
      obtain ⟨keyed', stable', colons, ne⟩ := others _ mem_cons_self
      rw [run, ih _ fun event mem => others event (mem_cons_of_mem _ mem)]
      exact preferred_bind stable stable' fun same => ne (suffix_injective keyed keyed' colons same).symm

def tagged : ChannelAffinityRule := ⟨"r", true, true, true⟩

theorem other_group_apart : getPreferredChannelByAffinity tagged
    (run (bindChannelAffinity tagged) (fun _ => none) [(⟨"m", "h", "g:v"⟩, some 7)]) ⟨"m", "g", "v"⟩ = none := by
  refine ((affinityKeys_apart ⟨rfl, ⟨rfl, by simp⟩, rfl, by simp⟩).2 (by decide) _ _ fun event mem => ?_).trans (by rfl)
  obtain rfl := mem_singleton.mp mem
  exact ⟨⟨rfl, ⟨rfl, by simp⟩, rfl, by simp⟩, by decide, by decide, by decide⟩

theorem colon_in_model_collides : buildChannelAffinityCacheKeySuffix tagged ⟨"a:b", "g", "v"⟩ =
      buildChannelAffinityCacheKeySuffix tagged ⟨"a", "b", "g:v"⟩ ∧
    getPreferredChannelByAffinity tagged (run (bindChannelAffinity tagged) (fun _ => none)
      [(⟨"a:b", "g", "v"⟩, some 7)])
      ⟨"a", "b", "g:v"⟩ = some 7 := by
  decide +kernel

end NewApi.Proof
