import Concierge.Number.Power

/-!
# Binary floating point

A finite double is `± m · 2 ^ e` with `m < 2 ^ 53` and `-1074 ≤ e ≤ 971`. Rounding takes an exact
quotient of natural numbers to the nearest double, a tie to the even mantissa; multiplication and
division round the exact result once.
-/

namespace Concierge

/-- A finite binary floating-point number with a mantissa of at most 53 bits. -/
structure Double where
  negative : Bool
  mantissa : Nat
  exponent : Int
deriving DecidableEq, Repr, Inhabited

namespace Double

def minExponent : Int := -1074

def maxExponent : Int := 971

def zero (negative : Bool) : Double := ⟨negative, 0, minExponent⟩

/-- The quotient rounded to the nearest natural number, a tie to the even one. -/
def roundDiv (num den : Nat) : Nat :=
  let k := num / den
  let r := num % den
  if 2 * r < den then k else if den < 2 * r then k + 1 else k + k % 2

/-- `num / (den · 2 ^ e)` as a quotient of natural numbers. -/
def rescale (num den : Nat) (e : Int) : Nat × Nat :=
  if 0 ≤ e then (num, den * twoTo e.toNat) else (num * twoTo (-e).toNat, den)

/-- The double nearest to `num / den`; none beyond the largest one. -/
def round? (negative : Bool) (num den : Nat) : Option Double :=
  if num = 0 then some (zero negative)
  else
    -- with this exponent the quotient has 53 or 54 bits
    let guess : Int := (num.log2 : Int) - den.log2 - 53
    let (n, d) := rescale num den guess
    let e := max minExponent (if n / d < twoTo 53 then guess else guess + 1)
    let (n, d) := rescale num den e
    let m := roundDiv n d
    let (m, e) := if m = twoTo 53 then (twoTo 52, e + 1) else (m, e)
    if maxExponent < e then none else some ⟨negative, m, e⟩

def ratio (x : Double) : Nat × Nat :=
  if 0 ≤ x.exponent then (x.mantissa * twoTo x.exponent.toNat, 1)
  else (x.mantissa, twoTo (-x.exponent).toNat)

def mul? (x y : Double) : Option Double :=
  let (a, b) := x.ratio
  let (c, d) := y.ratio
  round? (x.negative != y.negative) (a * c) (b * d)

def div? (x y : Double) : Option Double :=
  let (a, b) := x.ratio
  let (c, d) := y.ratio
  round? (x.negative != y.negative) (a * d) (b * c)

def powerOfTen (k : Nat) : Double := (round? false (tenTo k) 1).getD default

def maxPower : Nat := 308

/-- Divide up to `k` times by the largest power of ten, no further than zero. -/
def shrink : Nat → Double → Double
  | 0, s => s
  | k + 1, s => if s.mantissa = 0 then s else shrink k ((s.div? (powerOfTen maxPower)).getD s)

/-- `s · 10 ^ e` with one rounding for `s`, one for the power of ten and one for each operation.
An exponent below `-308` is worked off in steps of 308. None beyond the largest double. -/
def scaled? (s : Double) (e : Int) : Option Double :=
  if 0 ≤ e then
    if e ≤ maxPower then s.mul? (powerOfTen e.toNat)
    else if s.mantissa = 0 then some s
    else none
  else
    let steps := (e.natAbs - 1) / maxPower
    (shrink steps s).div? (powerOfTen (e.natAbs - steps * maxPower))

def ofDecimal? (negative : Bool) (digits : Nat) (e : Int) : Option Double :=
  let size : Int := (Nat.toDigits 10 digits).length + e
  if digits = 0 ∨ size < -330 then some (zero negative)
  else if 310 < size then none
  else if 0 ≤ e then round? negative (digits * tenTo e.toNat) 1
  else round? negative digits (tenTo (-e).toNat)

def floorAbs (x : Double) : Nat := x.ratio.1 / x.ratio.2

end Double

end Concierge
