import Mathlib.Algebra.Order.Field.Rat
import Mathlib.Data.Rat.Floor

/-!
# Float64 arithmetic

A float stands for its shortest decimal, as `decimal.NewFromFloat` reads it. An operation rounds its
result to 53 bits. Overflow and subnormal numbers are left out.
-/

namespace NewApi.Common

def powInt (base : Nat) (exponent : Int) : Rat :=
  if 0 ≤ exponent then base ^ exponent.toNat else 1 / base ^ (-exponent).toNat

def roundHalfEven (x : Rat) : Int :=
  if x - x.floor < 1 / 2 then x.floor
  else if 1 / 2 < x - x.floor then x.floor + 1
  else x.floor + x.floor % 2

def binaryExponent (x : Rat) : Int :=
  let estimate : Int := Nat.log2 x.num.natAbs - Nat.log2 x.den
  if powInt 2 estimate ≤ |x| then estimate else estimate - 1

def nearestFloat64 (x : Rat) : Rat :=
  if x = 0 then 0
  else roundHalfEven (x / powInt 2 (binaryExponent x - 52)) * powInt 2 (binaryExponent x - 52)

def shortestFrom (x : Rat) : Nat → Int → Rat
  | 0, _ => x
  | more + 1, places =>
    let decimal := roundHalfEven (x * powInt 10 places) / powInt 10 places
    if nearestFloat64 decimal = x then decimal else shortestFrom x more (places + 1)

def shortestDecimal (x : Rat) : Rat := shortestFrom x 60 (-20)

def float64Mul (a b : Rat) : Rat :=
  shortestDecimal (nearestFloat64 (nearestFloat64 a * nearestFloat64 b))

def float64Div (a b : Rat) : Rat :=
  shortestDecimal (nearestFloat64 (nearestFloat64 a / nearestFloat64 b))

example : float64Mul (float64Div 249 1000000) 500000 = 12449999999999999 / 10 ^ 14 := by decide +kernel

end NewApi.Common
