import Concierge.Number.Double

/-!
# The shortest decimal that reads back

A decimal reads back as the double `m · 2 ^ e` when it lies in the interval of numbers that round
to it. `shortest` takes the coarsest decimal grid with a point in that interval and, of two such
points, the nearer one; `layout` writes the digits in positional or scientific form.
-/

namespace Concierge.Double

structure Decimal where
  digits : Nat
  exponent : Int
deriving DecidableEq, Repr

/-- `num / den` is less than `p / q · 10 ^ k`, or equal to it if `closed`. -/
private def below (closed : Bool) (num den p q : Nat) (k : Int) : Bool :=
  let (l, r) := if 0 ≤ k then (num * q, p * den * tenTo k.toNat)
    else (num * q * tenTo (-k).toNat, p * den)
  l < r || (closed && l = r)

/-- The ends of the interval of numbers that round to `x`, as quotients. -/
def roundingInterval (x : Double) : (Nat × Nat) × (Nat × Nat) :=
  let lowStep := x.mantissa = twoTo 52 ∧ x.exponent ≠ minExponent
  let quarter (n : Nat) : Nat × Nat :=
    let e := x.exponent - 2
    if 0 ≤ e then (n * twoTo e.toNat, 1) else (n, twoTo (-e).toNat)
  (quarter (4 * x.mantissa - (if lowStep then 1 else 2)), quarter (4 * x.mantissa + 2))

def roundsTo (x : Double) (d : Nat) (k : Int) : Bool :=
  let (lo, hi) := x.roundingInterval
  let closed := x.mantissa % 2 = 0
  below closed lo.1 lo.2 d 1 k && !below (!closed) hi.1 hi.2 d 1 k

def leadingExponent (num den : Nat) : Int :=
  if den ≤ num then (Nat.toDigits 10 (num / den)).length - 1
  else
    let j := (Nat.toDigits 10 (den / num)).length - 1
    if den ≤ num * tenTo j then -(j : Int) else -(j + 1 : Int)

/-- The floor of `num / (den · 10 ^ k)` and whether the next grid point is nearer. -/
private def gridFloor (num den : Nat) (k : Int) : Nat × Bool :=
  let (n, d) := if 0 ≤ k then (num, den * tenTo k.toNat) else (num * tenTo (-k).toNat, den)
  (n / d, d < 2 * (n % d) || (d = 2 * (n % d) && (n / d) % 2 = 1))

def onGrid? (x : Double) (lead : Int) (n : Nat) : Option Decimal :=
  let (num, den) := x.ratio
  let k := lead - n + 1
  let (d, up) := gridFloor num den k
  match x.roundsTo d k, x.roundsTo (d + 1) k with
  | true, true => some ⟨if up then d + 1 else d, k⟩
  | true, false => some ⟨d, k⟩
  | false, true => some ⟨d + 1, k⟩
  | false, false => none

/-- The fewest digits that read back as the absolute value of `x`, the nearest of those. -/
def shortest (x : Double) : Decimal :=
  if x.mantissa = 0 then ⟨0, 0⟩
  else
    let lead := leadingExponent x.ratio.1 x.ratio.2
    ((List.range 17).findSome? fun i => x.onGrid? lead (i + 1)).getD ⟨x.ratio.1 / x.ratio.2, 0⟩

def stripZeros (ds : List Char) : List Char × Nat :=
  let kept := (ds.reverse.dropWhile (· = '0')).reverse
  (kept, ds.length - kept.length)

/-- Where the positional form of a number is used: leading exponents from `low` to `high`. -/
structure Layout where
  low : Int
  high : Int

/-- The digits of `x` in positional form with at least one place after the point, or in scientific
form with the sign of the exponent written. -/
def layout (l : Layout) (x : Double) : String :=
  let sign := if x.negative then "-" else ""
  let short := x.shortest
  let (ds, zeros) := stripZeros (Nat.toDigits 10 short.digits)
  match ds with
  | [] => sign ++ "0.0"
  | first :: rest =>
    let exponent := short.exponent + zeros
    let lead := exponent + rest.length
    let body : List Char :=
      if l.low ≤ lead ∧ lead ≤ l.high then
        if 0 ≤ exponent then ds ++ List.replicate exponent.toNat '0' ++ ['.', '0']
        else if 0 ≤ lead then ds.take (lead.toNat + 1) ++ '.' :: ds.drop (lead.toNat + 1)
        else '0' :: '.' :: List.replicate ((-lead).toNat - 1) '0' ++ ds
      else
        let point := if rest.isEmpty then [] else '.' :: rest
        let power := (if 0 ≤ lead then ['e', '+'] else ['e', '-']) ++ Nat.toDigits 10 lead.natAbs
        first :: point ++ power
    sign ++ String.ofList body

end Concierge.Double
