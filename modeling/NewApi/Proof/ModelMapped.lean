import Mathlib.Data.List.Perm.Subperm
import NewApi.Relay.ModelMapped

/-!
# Model mapping ends where its chain ends

The loop keeps the models it left: they are distinct keys of the mapping, and the chain leads from
each of them to the current one.
-/

namespace NewApi.Proof
open Common Relay Relation List

section Chains
variable (modelMap : ModelMap)

def MapsTo (model next : String) : Prop := modelMap.lookup model = some next ∧ next ≠ ""

abbrev Leads := ReflTransGen (MapsTo modelMap)

def ReachesCycle (model : String) : Prop :=
  ∃ a b, Leads modelMap model a ∧ MapsTo modelMap a b ∧ b ≠ a ∧ Leads modelMap b a

def ChainEnd (model last : String) : Prop :=
  Leads modelMap model last ∧ ∀ next, MapsTo modelMap last next → next = last

variable {modelMap} {model last other : String}

theorem mapsTo_unique : Relator.RightUnique (MapsTo modelMap) :=
  fun _ _ _ one two => Option.mem_unique one.1 two.1

theorem chainEnd_stays (ends : ChainEnd modelMap model last) (path : Leads modelMap last other) : other = last := by
  induction path with
  | refl => rfl
  | tail _ step same => exact ends.2 _ (same ▸ step)

theorem chainEnd_unique (ends : ChainEnd modelMap model last)
    (ends' : ChainEnd modelMap model other) : other = last := by
  rcases ReflTransGen.total_of_right_unique mapsTo_unique ends.1 ends'.1 with path | path
  · exact chainEnd_stays ends path
  · exact (chainEnd_stays ends' path).symm

theorem chainEnd_no_cycle (ends : ChainEnd modelMap model last) : ¬ReachesCycle modelMap model := by
  rintro ⟨a, b, reached, step, moves, back⟩
  -- whatever the cycle leads to leads back to it
  have returns {x : String} (path : Leads modelMap a x) : Leads modelMap x a := by
    induction path with
    | refl => exact .refl
    | tail _ next ih =>
      rcases ih.cases_head with rfl | ⟨_, first, rest⟩
      · exact mapsTo_unique step next ▸ back
      · exact mapsTo_unique first next ▸ rest
  obtain rfl : a = last := by
    rcases ReflTransGen.total_of_right_unique mapsTo_unique reached ends.1 with path | path
    · exact chainEnd_stays ends (returns path)
    · exact chainEnd_stays ends path
  exact moves (ends.2 b step)

end Chains

def ExitExplained (modelMap : ModelMap) (origin start current : String) : ChainExit → Prop
  | .cycle => ReachesCycle modelMap current
  | .unmapped => ChainEnd modelMap current origin
  | .last model true => ChainEnd modelMap current model ∧ model ≠ "" ∧ (start = origin → model ≠ start)
  | .last model false => ChainEnd modelMap current model ∧ model = start

variable {modelMap : ModelMap} {origin start current : String} {fuel : Nat}

theorem exitExplained_head {next exit} (step : MapsTo modelMap current next)
    (explained : ExitExplained modelMap origin start next exit) : ExitExplained modelMap origin start current exit := by
  have longer {last} (ends : ChainEnd modelMap next last) :
    ChainEnd modelMap current last := ⟨.head step ends.1, ends.2⟩
  match exit, explained with
  | .cycle, ⟨a, b, reached, rest⟩ => exact ⟨a, b, .head step reached, rest⟩
  | .unmapped, ends => exact longer ends
  | .last _ true, ⟨ends, rest⟩ | .last _ false, ⟨ends, rest⟩ => exact ⟨longer ends, rest⟩

theorem exitExplained_here (ne : current ≠ start → current ≠ "")
    (final : ∀ next, MapsTo modelMap current next → next = current) :
    ExitExplained modelMap origin start current (.last current (decide (current ≠ start))) := by
  by_cases moved : current = start
  · rw [decide_eq_false (not_not.mpr moved)]
    exact ⟨⟨.refl, final⟩, moved⟩
  · rw [decide_eq_true moved]
    exact ⟨⟨.refl, final⟩, ne moved, fun _ => moved⟩

theorem followMapping_explained {past} (enough : modelMap.length < fuel + past.length)
    (distinct : (current :: past).Nodup) (keys : past ⊆ modelMap.map Prod.fst)
    (chain : ∀ model ∈ past, Leads modelMap model current) (began : start ∈ current :: past)
    (ne : current ≠ start → current ≠ "") :
    ∃ exit, followMapping modelMap origin fuel (current :: past) current (decide (current ≠ start)) = some exit ∧
      ExitExplained modelMap origin start current exit := by
  induction fuel generalizing past current with
  | zero =>
    have short := (subperm_of_subset (nodup_cons.mp distinct).2 keys).length_le
    rw [length_map] at short
    omega
  | succ fuel ih =>
    rw [followMapping]
    cases found : modelMap.lookup current with
    | none => exact ⟨_, rfl, exitExplained_here ne fun next step => by cases found.symm.trans step.1⟩
    | some mapped =>
      have only {next} (step : MapsTo modelMap current next) : next = mapped := Option.mem_unique step.1 found
      dsimp only
      split_ifs with empty seen self atOrigin
      · exact ⟨_, rfl, exitExplained_here ne fun next step => absurd ((only step).trans empty) step.2⟩
      · exact ⟨_, rfl, atOrigin ▸ ⟨.refl, fun next step => (only step).trans self⟩⟩
      · refine ⟨_, rfl, ⟨.refl, fun next step => (only step).trans self⟩, self ▸ empty, ?_⟩
        rintro rfl same
        exact atOrigin same
      · have back := chain mapped ((mem_cons.mp seen).resolve_left self)
        exact ⟨_, rfl, current, mapped, .refl, ⟨found, empty⟩, self, back⟩
      · have step : MapsTo modelMap current mapped := ⟨found, empty⟩
        have moved : mapped ≠ start := fun same => seen (same ▸ began)
        have key : current ∈ modelMap.map Prod.fst := by
          obtain ⟨before, rest, whole, -⟩ := lookup_eq_some_iff.mp found
          simp [whole]
        have onward : ∀ model ∈ current :: past, Leads modelMap model mapped := by
          rintro model (_ | ⟨_, earlier⟩)
          · exact .single step
          · exact (chain model earlier).tail step
        obtain ⟨exit, ran, explained⟩ := ih (by rw [length_cons]; omega) (nodup_cons.mpr ⟨seen, distinct⟩)
          (cons_subset.mpr ⟨key, keys⟩) onward (mem_cons_of_mem _ began) fun _ => empty
        rw [decide_eq_true moved] at ran
        exact ⟨exit, ran, exitExplained_head step explained⟩

theorem followMapping_from (enough : modelMap.length < fuel) (origin start : String) :
    ∃ exit, followMapping modelMap origin fuel [start] start false = some exit ∧
      ExitExplained modelMap origin start start exit := by
  have explained := @followMapping_explained modelMap origin start start fuel [] enough (by simp)
    (by simp) (by simp) mem_cons_self fun moved => absurd rfl moved
  rwa [decide_eq_false (not_not.mpr rfl)] at explained

/-- An unset mapping skips the loop, and gives what a mapping without entries gives. -/
theorem modelMapped_unset (fuel : Nat) (compact : Bool) (model : String) :
    modelMappedHelper fuel compact .unset (initChannelMeta model) =
      modelMappedHelper (fuel + 1) compact (.entries []) (initChannelMeta model) := rfl

/-- Outside compact mode the helper answers with the end of the chain, or with the error at a cycle. -/
theorem modelMapped_chain_end (modelMap : ModelMap) (model : String) (fuel : Nat) (enough : modelMap.length < fuel) :
    ∃ result, modelMappedHelper fuel false (.entries modelMap) (initChannelMeta model) = some result ∧
      (result = .error "model_mapping_contains_cycle" ↔ ReachesCycle modelMap model) ∧
      (¬ReachesCycle modelMap model → ∃ last, ChainEnd modelMap model last ∧
        result = .ok ⟨model, last, decide (last ≠ model)⟩) := by
  obtain ⟨exit, ran, explained⟩ := followMapping_from enough model model
  refine ⟨_, congrArg (Option.map _) ran, ?_⟩
  match exit, explained with
  | .cycle, cycle => exact ⟨⟨fun _ => cycle, fun _ => rfl⟩, fun none => absurd cycle none⟩
  | .unmapped, ends => exact ⟨by simp [chainEnd_no_cycle ends], fun _ => ⟨_, ends, by simp [initChannelMeta]⟩⟩
  | .last _ true, ⟨ends, _, moved⟩ =>
    exact ⟨by simp [chainEnd_no_cycle ends], fun _ => ⟨_, ends, by simp [finishMapping, initChannelMeta, moved rfl]⟩⟩
  | .last _ false, ⟨ends, rfl⟩ =>
    exact ⟨by simp [chainEnd_no_cycle ends], fun _ => ⟨_, ends, by simp [finishMapping, initChannelMeta]⟩⟩

theorem modelMapped_chain_end_single :
    ∃ result, modelMappedHelper 2 false (.entries [("a", "b")]) (initChannelMeta "a") = some result ∧
      (result = .error "model_mapping_contains_cycle" ↔ ReachesCycle [("a", "b")] "a") := by
  obtain ⟨result, ran, cycle, -⟩ := modelMapped_chain_end [("a", "b")] "a" 2 (by decide)
  exact ⟨result, ran, cycle⟩

abbrev baseModel (model : String) : String := trimSuffix model compactModelSuffix

theorem trimSuffix_append (text ending : String) : trimSuffix (text ++ ending) ending = text := by
  rw [trimSuffix, if_pos (by simp [hasSuffix])]
  simp

theorem compactAttempt_chain_end {origin model last} (enough : modelMap.length < fuel)
    (base : baseModel origin = model) (ends : ChainEnd modelMap model last) :
    ∃ info, modelMappedHelper fuel true (.entries modelMap) (initChannelMeta origin) = some (.ok info) ∧
      info.upstreamModelName = last ∧ (info.originModelName = withCompactModelSuffix last ∨
        info.originModelName = origin) := by
  subst base
  obtain ⟨exit, ran, explained⟩ := followMapping_from enough origin (baseModel origin)
  rw [modelMappedHelper]
  match exit, explained with
  | .cycle, cycle => exact absurd cycle (chainEnd_no_cycle ends)
  | .unmapped, ends' => exact ⟨_, congrArg (Option.map _) ran, chainEnd_unique ends ends', .inr rfl⟩
  | .last other true, ⟨ends', ne, _⟩ =>
    obtain rfl := chainEnd_unique ends ends'
    exact ⟨_, congrArg (Option.map _) ran, by simp [finishMapping, ne], .inl (by simp [finishMapping, ne])⟩
  | .last _ false, ⟨ends', rfl⟩ =>
    obtain rfl := chainEnd_unique ends ends'
    exact ⟨_, congrArg (Option.map _) ran, by simp [finishMapping, initChannelMeta],
      .inl (by simp [finishMapping, initChannelMeta])⟩

theorem compact_attempt_own_chain (fuel : Nat) (earlier : List ModelMap) (modelMap : ModelMap)
    (model last : String) (plain : hasSuffix (baseModel model) compactModelSuffix = false)
    (unmapped : ∀ mapping ∈ earlier, mapping.length < fuel ∧ ChainEnd mapping (baseModel model) (baseModel model))
    (enough : modelMap.length < fuel) (ends : ChainEnd modelMap (baseModel model) last) :
    ∃ origin info, compactAttempts fuel (earlier.map .entries) model = some origin ∧
      modelMappedHelper fuel true (.entries modelMap) (initChannelMeta origin) = some (.ok info) ∧
        info.upstreamModelName = last := by
  suffices named : ∀ origin, baseModel origin = baseModel model →
      ∃ origin', compactAttempts fuel (earlier.map .entries) origin = some origin' ∧
        baseModel origin' = baseModel model by
    obtain ⟨origin, reached, base⟩ := named model rfl
    obtain ⟨info, answered, upstream, -⟩ := compactAttempt_chain_end enough base ends
    exact ⟨origin, info, reached, answered, upstream⟩
  clear ends
  induction earlier with
  | nil => exact fun origin base => ⟨origin, rfl, base⟩
  | cons mapping earlier ih =>
    intro origin base
    obtain ⟨short, stays⟩ := unmapped mapping mem_cons_self
    obtain ⟨info, answered, -, renamed⟩ := compactAttempt_chain_end short base stays
    rw [map_cons, compactAttempts, answered]
    refine ih (fun other mem => unmapped other (mem_cons_of_mem _ mem)) info.originModelName ?_
    rcases renamed with suffixed | same
    · rw [suffixed, withCompactModelSuffix, if_neg (by simp [plain]), show baseModel _ = _ from trimSuffix_append _ _]
    · rw [same, base]

theorem mapsTo_end {model last} (step : MapsTo modelMap model last) (missing : modelMap.lookup last = none) :
    ChainEnd modelMap model last :=
  ⟨.single step, fun _ next => by cases missing.symm.trans next.1⟩

theorem compact_attempt_own_chain_second : ∃ origin info,
    compactAttempts 2 ([[("other", "x")]].map .entries) "m" = some origin ∧
      modelMappedHelper 2 true (.entries [("m", "b")]) (initChannelMeta origin) = some (.ok info) ∧
        info.upstreamModelName = "b" :=
  compact_attempt_own_chain 2 [[("other", "x")]] [("m", "b")] "m" "b" (by decide)
    (by simpa using ⟨.refl, fun _ next => by cases next.1⟩) (by decide) (mapsTo_end ⟨rfl, by decide⟩ rfl)

theorem compact_attempt_foreign_chain : compactAttempts 2 [.entries [("m", "a")]] "m" = some "a-openai-compact" ∧
      modelMappedHelper 2 true (.entries [("m", "b")]) (initChannelMeta "a-openai-compact") =
        some (.ok ⟨"a-openai-compact", "a", false⟩) ∧ ChainEnd [("m", "b")] (baseModel "m") "b" :=
  ⟨by decide, by decide, mapsTo_end ⟨by decide, by decide⟩ rfl⟩

end NewApi.Proof
