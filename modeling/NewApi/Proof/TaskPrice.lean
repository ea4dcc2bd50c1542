import NewApi.Proof.TextQuota
import NewApi.Relay.TaskPrice

/-! # Ratios of a task, at submission and at completion -/

namespace NewApi.Proof
open Common Relay List

def addRatio (ratios : List (String × Rat)) (entry : String × Rat) : List (String × Rat) :=
  if 0 < entry.2 then entry :: ratios.filter (·.1 ≠ entry.1) else ratios

def sets (ratios : List (String × Rat)) (key : String) : Bool := ratios.any fun entry => entry.1 = key ∧ 0 < entry.2

section Ratios
variable {added ratios : List (String × Rat)} {key : String} {entry : String × Rat}

theorem otherRatios_added (added : List (String × Rat)) (price) :
    (addOtherRatios added price).otherRatios = added.foldl addRatio price.otherRatios := by
  unfold addOtherRatios
  induction added generalizing price with
  | nil => rfl
  | cons _ _ ih =>
    rw [foldl_cons, foldl_cons, ih]
    congr 1
    unfold PriceData.addOtherRatio addRatio
    split_ifs <;> rfl

theorem foldl_addRatio (added ratios : List (String × Rat)) :
    added.foldl addRatio ratios = added.foldl addRatio [] ++ ratios.filter fun entry => !sets added entry.1 := by
  induction added generalizing ratios with
  | nil => simp [sets]
  | cons other added ih =>
    rw [foldl_cons, foldl_cons, ih, ih (addRatio [] other), append_assoc]
    congr 1
    unfold addRatio
    by_cases valid : 0 < other.2
    · have again (entry : String × Rat) : sets (other :: added) entry.1 =
        (decide (other.1 = entry.1) || sets added entry.1) := by
        simp [sets, valid]
      have dropped : (ratios.filter (·.1 ≠ other.1)).filter (fun entry => !sets added entry.1) =
          ratios.filter fun entry => !sets (other :: added) entry.1 := by
        rw [filter_filter]
        congr 1
        funext entry
        rw [again, Bool.not_or, Bool.and_comm, decide_not]
        simp only [eq_comm]
      rw [if_pos valid, if_pos valid, filter_nil, ← dropped, filter_cons, filter_cons]
      split_ifs <;> rfl
    · simp [valid, sets]

theorem mem_foldl_addRatio (mem : entry ∈ added.foldl addRatio ratios) :
    entry ∈ ratios ∨ entry ∈ added ∧ 0 < entry.2 := by
  induction added generalizing ratios with
  | nil => exact .inl mem
  | cons _ _ ih =>
    rcases ih mem with earlier | ⟨later, valid⟩
    · unfold addRatio at earlier
      split_ifs at earlier with valid
      · rcases mem_cons.mp earlier with rfl | earlier
        · exact .inr ⟨mem_cons_self, valid⟩
        · exact .inl (mem_filter.mp earlier).1
      · exact .inl earlier
    · exact .inr ⟨mem_cons_of_mem _ later, valid⟩

theorem set_foldl_addRatio (ratios : List (String × Rat)) (set : sets added key = true) :
    ∃ entry ∈ added.foldl addRatio ratios, entry.1 = key := by
  induction added generalizing ratios with
  | nil => cases set
  | cons other added ih =>
    cases later : sets added key with
    | true => exact ih _ later
    | false =>
      rw [sets, any_cons, ← sets, later, Bool.or_false] at set
      obtain ⟨rfl, valid⟩ := of_decide_eq_true set
      refine ⟨other, ?_, rfl⟩
      rw [foldl_cons, foldl_addRatio]
      refine mem_append_right _ (mem_filter.mpr ⟨?_, by rw [later]; rfl⟩)
      rw [addRatio, if_pos valid]
      exact mem_cons_self

theorem addRatio_same (set : ∀ entry ∈ ratios, sets added entry.1 = true) :
    added.foldl addRatio (ratios.foldl addRatio []) = added.foldl addRatio [] := by
  rw [foldl_addRatio]
  convert append_nil _
  refine filter_eq_nil_iff.mpr fun entry stored => ?_
  rcases mem_foldl_addRatio stored with none | ⟨mem, -⟩
  · cases none
  · simp [set entry mem]

theorem addRatio_lost (valid : ∀ entry ∈ ratios, 0 < entry.2)
    (same : ∀ key, (added.foldl addRatio []).lookup key = (added.foldl addRatio (ratios.foldl addRatio [])).lookup key)
    (entry : String × Rat) (mem : entry ∈ ratios) : sets added entry.1 = true := by
  by_contra unset
  have gone : (added.foldl addRatio []).lookup entry.1 = none := by
    refine lookup_eq_none_iff.mpr fun other found => ?_
    rcases mem_foldl_addRatio found with none | ⟨set, pos⟩
    · cases none
    · have differs : other.1 ≠ entry.1 := fun key => unset (any_eq_true.mpr ⟨other, set, by simp [key, pos]⟩)
      simpa using fun key : entry.1 = other.1 => differs key.symm
  have first : sets ratios entry.1 = true := any_eq_true.mpr ⟨entry, mem, by simp [valid entry mem]⟩
  obtain ⟨kept, stored, key⟩ := set_foldl_addRatio [] first
  have there : kept ∈ added.foldl addRatio (ratios.foldl addRatio []) := by
    rw [foldl_addRatio]
    exact mem_append_right _ (mem_filter.mpr ⟨stored, by simp [key, unset]⟩)
  rw [same] at gone
  simpa [key] using lookup_eq_none_iff.mp gone kept there

end Ratios

theorem perCall_otherRatios {env ctx info price} (built : modelPriceHelperPerCall env ctx info =
    .ok price) : price.otherRatios = [] := by
  unfold modelPriceHelperPerCall at built
  dsimp only at built
  split at built
  · obtain ⟨_, -, built⟩ := except_bind_ok built
    cases built
    rfl
  · split at built
    · cases built
    · obtain ⟨_, -, built⟩ := except_bind_ok built
      cases built
      rfl

def remixPrice (origin estimated : List (String × Rat)) (base : CallPrice) : PriceData :=
  addOtherRatios estimated (addOtherRatios origin base.toPriceData)

def remixInfo : RelayInfo := { ratioInfo with originModelName := "sora-2" }

def soraEnv : TaskPriceEnv where
  relay := { ratioEnv with modelPrice := fun _ => some (1 / 10) }
  defaultModelPrice _ := none
  taskPricePatches := []

def soraPrice : CallPrice := { modelPrice := 1 / 10, usePrice := true, quota := 50000 }

def SameEntry (env : RelayEnv) (userGroup usingGroup group : String) : Prop :=
  match env.groupGroupRatio userGroup usingGroup, env.groupGroupRatio group group with
  | none, none => env.groupRatio usingGroup = env.groupRatio group
  | some special, none => special = env.groupRatio group
  | none, some own => env.groupRatio usingGroup = own
  | some special, some own => special = own

theorem group_ratio_agrees_iff (env : RelayEnv) (ctx : RelayContext) (info : RelayInfo)
    (price : PriceData) (user : Option String) :
    let priced := handleGroupRatio env ctx info
    let task := pricedTask priced.1 { price with groupRatioInfo := priced.2 }
    task.groupRatio = recalculationRatio env (recalculationGroup user task) ↔
      SameEntry env info.userGroup (servingGroup ctx info)
        (if servingGroup ctx info = "" then user.getD "" else servingGroup ctx info) := by
  intro _ task
  have group : recalculationGroup user task = if servingGroup ctx info =
    "" then user.getD "" else servingGroup ctx info := rfl
  rw [group]
  have recorded : task.groupRatio =
      (env.groupGroupRatio info.userGroup (servingGroup ctx info)).getD (env.groupRatio (servingGroup ctx info)) := by
    show (groupRatioOf env info (servingGroup ctx info)).groupRatio = _
    unfold groupRatioOf
    cases env.groupGroupRatio info.userGroup (servingGroup ctx info) <;> rfl
  rw [recorded]
  unfold recalculationRatio SameEntry
  generalize (if servingGroup ctx info = "" then user.getD "" else servingGroup ctx info) = charged
  cases env.groupGroupRatio info.userGroup (servingGroup ctx info) <;> cases env.groupGroupRatio charged charged <;> rfl

def vipEnv : RelayEnv :=
  { ratioEnv with groupGroupRatio := fun user group => if user = "vip" ∧ group = "default" then some (1 / 2) else none }

def vipInfo : RelayInfo := { ratioInfo with userGroup := "vip" }

theorem vip_charged_in_full : let priced := handleGroupRatio vipEnv {} vipInfo
    (pricedTask priced.1 { groupRatioInfo := priced.2 }).groupRatio = 1 / 2 ∧
      quotaByTokens vipEnv (some "vip") (pricedTask priced.1 { groupRatioInfo := priced.2 }) 1000 = some 1000 := by
  decide +kernel

end NewApi.Proof
