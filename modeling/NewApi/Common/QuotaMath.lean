import Mathlib.Data.Rat.Floor

/-!
# Conversions to quota

Quotas are 32-bit integers; a conversion clamps what does not fit and reports that it did.
-/

namespace NewApi.Common

def maxQuota : Int := 2147483647

def minQuota : Int := -2147483648

inductive QuotaClampKind where
  | overflow | underflow | nan
deriving DecidableEq

structure QuotaClamp where
  op : String
  kind : QuotaClampKind
  original : Option Rat
  clamped : Int
deriving DecidableEq

def intPart (value : Rat) : Int := value.num.tdiv value.den

def saturateQuota (value : Option Rat) (op : String) : Int × Option QuotaClamp :=
  match value with
  | none => (0, some ⟨op, .nan, none, 0⟩)
  | some value =>
    if (maxQuota : Rat) ≤ value then (maxQuota, some ⟨op, .overflow, some value, maxQuota⟩)
    else if value ≤ (minQuota : Rat) then (minQuota, some ⟨op, .underflow, some value, minQuota⟩)
    else (intPart value, none)

def roundDecimal (value : Rat) : Int := if 0 ≤ value then ⌊value + 1 / 2⌋ else -⌊-value + 1 / 2⌋

def quotaFromDecimalChecked (value : Rat) : Int × Option QuotaClamp :=
  saturateQuota (some (roundDecimal value)) "QuotaFromDecimal"

def quotaRoundChecked (value : Rat) : Int × Option QuotaClamp := saturateQuota (some (roundDecimal value)) "QuotaRound"

def quotaFromFloatChecked (value : Rat) : Int × Option QuotaClamp := saturateQuota (some value) "QuotaFromFloat"

def strictQuota : Int × Option QuotaClamp → Except QuotaClamp Int
  | (_, some clamp) => .error clamp
  | (quota, none) => .ok quota

theorem roundDecimal_nonneg {value} (nonneg : 0 ≤ value) : 0 ≤ roundDecimal value := by
  rw [roundDecimal, if_pos nonneg]
  exact Int.floor_nonneg.mpr (by linarith)

theorem quotaFromDecimalChecked_nonneg {value} (nonneg : 0 ≤ value) : 0 ≤ (quotaFromDecimalChecked value).1 := by
  have rounded : (0 : Rat) ≤ roundDecimal value := by exact_mod_cast roundDecimal_nonneg nonneg
  unfold quotaFromDecimalChecked saturateQuota
  dsimp only
  split_ifs with above under
  · exact (by decide : (0 : Int) ≤ maxQuota)
  · exact absurd (rounded.trans under) (by decide)
  · simpa [intPart] using roundDecimal_nonneg nonneg

example : quotaFromDecimalChecked (5 / 2) = (3, none) := by decide +kernel
example : (quotaFromDecimalChecked 3000000000).1 = maxQuota := by decide +kernel

end NewApi.Common
