import Mathlib.Algebra.BigOperators.Group.List.Basic
import NewApi.Proof.ChannelSelectors

/-! # Shares of the weighted draws -/

namespace NewApi.Proof
open Common Library Model Channel List

def abilityShare (abilities : List Ability) (ability : Ability) : Nat :=
  (range (weightSum abilities).toNat).countP fun value => pickAbility abilities (value : Nat) = some ability

def WeightsFit (abilities : List Ability) : Prop := (abilities.map fun ability => ability.weight + 10).sum < 2 ^ 63

theorem abilityShare_eq {abilities} (present : abilities ≠ []) (fits : WeightsFit abilities) (ability) :
    abilityShare abilities ability + (if abilities.getLast? = some ability then 1 else 0) =
      abilities.count ability * (ability.weight + 10) + if abilities.head? = some ability then 1 else 0 := by
  have range_eq : (weightSum abilities).toNat = (abilities.map fun ability => ability.weight + 10).sum := by
    unfold WeightsFit at fits
    rw [weightSum, wrap64_fits (by omega) (by omega), Int.toNat_natCast]
  obtain ⟨last, whole⟩ : ∃ last, last + 1 = (abilities.map fun ability => ability.weight + 10).sum := by
    obtain ⟨first, rest, rfl⟩ := exists_cons_of_ne_nil present
    refine ⟨_ - 1, Nat.sub_add_cancel ?_⟩
    rw [map_cons, sum_cons]
    omega
  have exact := @countP_pickWeighted Ability (fun ability => ability.weight + 10) _ abilities ability
  rw [← whole, range_succ, countP_append, countP_singleton,
    pickWeighted_last (fun _ _ => Nat.succ_pos _) whole] at exact
  have shifted : ((range last).countP fun value => pickAbility abilities (value + 1 : Nat) = some ability) =
      (range last).countP fun value => pickWeighted (fun ability => ability.weight + 10) abilities
        value = some ability :=
    countP_congr fun value below => by
      have := mem_range.mp below
      unfold WeightsFit at fits
      rw [pickAbility_succ fits (by omega)]
  rw [abilityShare, range_eq, ← whole, range_succ_eq_map, countP_cons, countP_map, Nat.cast_zero,
    pickAbility_zero fits, ← exact]
  simp only [Function.comp_def, Nat.succ_eq_add_one, shifted, decide_eq_true_eq]
  omega

theorem count_eq_sum {abilities : List Ability} (ability : Ability) :
    abilities.count ability = (abilities.map fun other => if ability = other then 1 else 0).sum := by
  induction abilities with
  | nil => rfl
  | cons other _ ih =>
    rw [count_cons, ih, map_cons, sum_cons, Nat.add_comm]
    simp only [beq_iff_eq, @eq_comm _ other]

theorem shares_le {abilities : List Ability} (distinct : abilities.Nodup) (values : List Nat) :
    (abilities.map fun ability => values.countP fun value => pickAbility abilities (value : Nat) = some ability).sum ≤
      values.length := by
  induction values with
  | nil => simp
  | cons value _ ih =>
    have once : (abilities.map fun ability => if pickAbility abilities (value : Nat) =
      some ability then 1 else 0).sum ≤ 1 := by
      cases picked : pickAbility abilities (value : Nat) with
      | none => simp
      | some ability =>
        have one := nodup_iff_count_le_one.mp distinct ability
        rw [count_eq_sum] at one
        simpa using one
    simp only [countP_cons, decide_eq_true_eq, sum_map_add, length_cons]
    omega

/-- Within 64 bits the first ability has one value too many and the last one too few. -/
theorem ability_shares_iff {abilities : List Ability} (present : abilities ≠ []) :
    (WeightsFit abilities → ∀ ability, abilityShare abilities ability +
      (if abilities.getLast? = some ability then 1 else 0) =
      abilities.count ability * (ability.weight + 10) + if abilities.head? = some ability then 1 else 0) ∧
    (abilities.Nodup → ((∀ ability ∈ abilities, abilityShare abilities ability = ability.weight + 10) ↔
      abilities.length = 1 ∧ WeightsFit abilities)) := by
  refine ⟨fun fits => abilityShare_eq present fits, fun distinct => ⟨fun exact => ?_, ?_⟩⟩
  · have fits : WeightsFit abilities := by
      have most : (abilities.map (abilityShare abilities)).sum ≤ _ :=
        shares_le distinct (range (weightSum abilities).toNat)
      rw [map_congr_left exact, length_range] at most
      refine lt_of_le_of_lt most ?_
      unfold weightSum wrap64
      omega
    obtain ⟨first, rest, rfl⟩ := exists_cons_of_ne_nil present
    have share := abilityShare_eq present fits first
    rw [count_eq_one_of_mem distinct (by simp), head?_cons, if_pos rfl, one_mul, exact first (by simp)] at share
    have only : (first :: rest).getLast? = some first := by
      by_contra other
      rw [if_neg other] at share
      omega
    refine ⟨?_, fits⟩
    cases rest with
    | nil => rfl
    | cons =>
      rw [getLast?_cons_cons] at only
      exact absurd (mem_of_getLast? only) (nodup_cons.mp distinct).1
  · rintro ⟨one, fits⟩ _ mem
    obtain ⟨only, rfl⟩ := length_eq_one_iff.mp one
    rw [mem_singleton.mp mem]
    have share := abilityShare_eq present fits only
    simp only [getLast?_singleton, head?_cons, if_true, count_singleton_self, one_mul] at share
    omega

def plainAbility (channelId : ℕ+) : Ability := ⟨"default", "gpt-4o", channelId, true, 0, 0, none⟩

theorem ability_share_single : abilityShare [plainAbility 1] (plainAbility 1) = 10 :=
  ((ability_shares_iff (by decide)).2 (by decide)).2 ⟨rfl, by unfold WeightsFit; decide⟩ _ (by decide)

theorem ability_shares_uneven : weightSum [plainAbility 1, plainAbility 2] = 20 ∧
    abilityShare [plainAbility 1, plainAbility 2] (plainAbility 1) = 11 ∧
    abilityShare [plainAbility 1, plainAbility 2] (plainAbility 2) = 9 := by
  decide

theorem pickChannel64_eq {factor adjustment : Nat} {channels} {value : Nat}
    (fits : (channels.map fun channel => channel.getWeight * factor + adjustment).sum < 2 ^ 63)
    (below : value < 2 ^ 63) :
    pickChannel64 factor adjustment channels value = pickChannel factor adjustment channels value := by
  induction channels generalizing value with
  | nil => rfl
  | cons first _ ih =>
    rw [map_cons, sum_cons] at fits
    have own : wrap64 (first.getWeight * factor + adjustment : Nat) = (first.getWeight * factor + adjustment : Nat) :=
      wrap64_fits (by omega) (by omega)
    have less : wrap64 (value - (first.getWeight * factor + adjustment : Nat)) = value -
      (first.getWeight * factor + adjustment : Nat) :=
      wrap64_fits (by omega) (by omega)
    unfold pickChannel64 pickChannel
    dsimp only
    rw [own, less]
    split_ifs with taken
    · rfl
    · obtain ⟨_, same⟩ := Int.eq_ofNat_of_zero_le (not_lt.mp taken)
      rw [same]
      exact ih (by omega) (by omega)

section Fits
variable {channels : List Channel} (fits : totalWeight channels < 2 ^ 63)
include fits

theorem sumWeight_fits : wrap64 (channels.map getWeight).sum = (channels.map getWeight).sum := by
  rw [totalWeight_eq, smoothing] at fits
  apply wrap64_fits
  · omega
  · split_ifs at fits <;> omega

theorem smoothing64_eq : smoothing64 channels = smoothing channels := by
  unfold smoothing64 smoothing
  dsimp only
  rw [sumWeight_fits fits, Int.tdiv_eq_ediv_of_nonneg (by omega)]
  norm_cast

theorem totalWeight64_eq : totalWeight64 channels = totalWeight channels := by
  have exact : totalWeight64 channels = wrap64 (totalWeight channels) := by
    rw [totalWeight64, smoothing64_eq fits, sumWeight_fits fits, totalWeight_eq, smoothing]
    generalize (channels.map getWeight).sum = sum
    congr 1
    split_ifs <;> simp_all
  rw [exact]
  exact wrap64_fits (by omega) (by omega)

theorem drawChannel64_eq {value : Nat} (below : value < 2 ^ 63) :
    drawChannel64 channels value = pickWeighted (effectiveWeight channels) channels value := by
  rw [drawChannel64, smoothing64_eq fits, pickChannel64_eq fits below, pickChannel_eq]
  rfl

theorem countP_drawChannel64 (distinct : channels.Nodup) {channel} (mem : channel ∈ channels) :
    ((range (totalWeight channels)).countP fun value => drawChannel64 channels (value : Nat) = some channel) =
      effectiveWeight channels channel := by
  have drawn : ∀ value ∈ range (totalWeight channels), drawChannel64 channels (value : Nat) =
      pickWeighted (effectiveWeight channels) channels value := fun value below =>
    drawChannel64_eq fits (lt_trans (mem_range.mp below) fits)
  rw [countP_congr fun value below => by rw [drawn value below]]
  simpa [totalWeight, count_eq_one_of_mem distinct mem] using @countP_pickWeighted _
    (effectiveWeight channels) _ channels channel

end Fits

section Cached
variable {cache : ChannelCache} {ids : List ℕ+} {channels : List Channel}

theorem getRandom_eq {env group model requestPath} (retry draw : Nat)
    (looked : lookupChannels cache (candidateChannels env cache group model requestPath) =
    .ok channels) (present : channels ≠ []) :
    getRandomSatisfiedChannel env cache group model retry requestPath draw =
      .ok (drawChannel (atLevel channels retry) draw) := by
  obtain ⟨_, mem, drawn⟩ := drawChannel_some (atLevel_ne_nil present retry) draw
  have ids := lookupChannels_ids looked
  unfold getRandomSatisfiedChannel
  rcases shape : candidateChannels env cache group model requestPath with _ | ⟨first, _ | ⟨second, rest⟩⟩
  · rw [shape, map_eq_nil_iff] at ids
    exact absurd ids present
  · rw [shape] at ids looked
    obtain ⟨only, rfl, -⟩ := map_eq_singleton_iff.mp ids
    obtain rfl := mem_singleton.mp (mem_filter.mp mem).1
    simp only [looked, bind, Except.bind, pure, Except.pure, head?_cons, drawn]
  · rw [shape] at looked
    simp only [targetChannels_eq looked present, bind, Except.bind, drawn, pure, Except.pure]

/-- Channels of the level are drawn in proportion to their weights if the sum, a hundredfold for an
average below 10, is within 64 bits. -/
theorem cached_draw_shares (env : ChannelEnv) (cache : ChannelCache) (group model requestPath : String) (retry : Nat)
    (present : candidateChannels env cache group model requestPath ≠ [])
    (distinct : (candidateChannels env cache group model requestPath).Nodup) :
    match lookupChannels cache (candidateChannels env cache group model requestPath) with
    | .error reason => ∀ draw, getRandomSatisfiedChannel env cache group model retry requestPath draw = .error reason
    | .ok channels =>
      let drawn := atLevel channels retry
      totalWeight drawn < 2 ^ 63 → 0 < totalWeight drawn ∧ totalWeight64 drawn = totalWeight drawn ∧
        (∀ draw, ∃ channel ∈ drawn, getRandomSatisfiedChannel env cache group model retry
          requestPath draw = .ok (some channel) ∧
          drawChannel64 drawn (draw % totalWeight drawn : Nat) = some channel) ∧
            ∃ factor, 0 < factor ∧ ∀ channel ∈ drawn,
          ((range (totalWeight drawn)).countP fun value => drawChannel64 drawn (value : Nat) = some channel) =
            (if (drawn.map getWeight).sum = 0 then 1 else channel.getWeight) * factor := by
  cases looked : lookupChannels cache (candidateChannels env cache group model requestPath) with
  | error =>
    intro draw
    unfold getRandomSatisfiedChannel
    rcases shape : candidateChannels env cache group model requestPath with _ | ⟨first, _ | ⟨second, rest⟩⟩
    · exact absurd shape present
    · simp [← shape, looked, bind, Except.bind]
    · simp [← shape, targetChannels, looked, bind, Except.bind]
  | ok channels =>
    intro fits
    have ids := lookupChannels_ids looked
    have some : channels ≠ [] := by
      rintro rfl
      exact present ids.symm
    have unique : (atLevel channels retry).Nodup := (List.Nodup.of_map _ (ids ▸ distinct)).filter _
    have pos := totalWeight_pos (atLevel_ne_nil some retry)
    refine ⟨pos, totalWeight64_eq fits, fun draw => ?_, ?_⟩
    · obtain ⟨channel, mem, found⟩ := drawChannel_some (atLevel_ne_nil some retry) draw
      refine ⟨channel, mem, by rw [getRandom_eq retry draw looked some, found], ?_⟩
      rw [drawChannel64_eq fits (lt_trans (Nat.mod_lt draw pos) fits), ← drawChannel_eq, found]
    · have shares := fun channel mem => @countP_drawChannel64 _ fits unique channel mem
      by_cases weightless : ((atLevel channels retry).map getWeight).sum = 0
      · refine ⟨100, by decide, fun channel mem => ?_⟩
        have own : channel.getWeight = 0 := List.sum_eq_zero_iff_forall_eq_nat.mp weightless _ (List.mem_map_of_mem mem)
        rw [shares channel mem, if_pos weightless, effectiveWeight, smoothing, if_pos weightless, own]
        rfl
      · refine ⟨(smoothing (atLevel channels retry)).1, ?_, fun channel mem => ?_⟩
        · rw [smoothing, if_neg weightless]
          split_ifs <;> decide
        · rw [shares channel mem, if_neg weightless, effectiveWeight, smoothing, if_neg weightless]
          split_ifs <;> rfl

end Cached

def weighted (id : ℕ+) (weight : Nat) : Channel := { id := id, weight := some weight }

def weightedCache : ChannelCache :=
  { ChannelCache.empty with
    channelsIDM := ⟨[weighted (Nat.toPNat' 1) 5, weighted (Nat.toPNat' 2) 15], by decide⟩
    group2model2channels := fun _ _ => [Nat.toPNat' 1, Nat.toPNat' 2] }

theorem cached_draw_weights : ∃ factor, 0 < factor ∧ ∀ channel ∈ [weighted 1 5, weighted 2 15],
    ((range 20).countP fun value => drawChannel64 [weighted 1 5, weighted 2 15] (value : Nat) =
      some channel) = channel.getWeight * factor :=
  (cached_draw_shares {} weightedCache "default" "gpt-4o" "" 0 (by decide) (by decide) (by decide)).2.2.2

theorem cached_draw_wraps :
    let channels := [weighted 1 9223372036854775807, weighted 2 9223372036854775807, weighted 3 3]
    totalWeight64 channels = 100 ∧
    ((range 100).countP fun value => drawChannel64 channels (value : Nat) = some (weighted 3 3)) = 100 := by
  decide +kernel

end NewApi.Proof
