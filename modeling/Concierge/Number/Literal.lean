import Concierge.Number.Double
import Concierge.Text.Digits

/-!
# Reading a floating-point literal

A literal is a decimal with an optional point and exponent, of which the point may stand first or
last, or one of the words for infinity and not-a-number in any case. No blanks are allowed.
-/

namespace Concierge

/-- A double, or what is not a number of finite size. -/
inductive Extended where
  | finite (x : Double)
  | infinite (negative : Bool)
  | nan
deriving DecidableEq, Repr

namespace Extended

open Text

def exponent? : List Char → Option Int
  | [] => some 0
  | c :: cs =>
    if c = 'e' ∨ c = 'E' then
      let (down, ds) := match cs with
        | '-' :: ds => (true, ds)
        | '+' :: ds => (false, ds)
        | ds => (false, ds)
      if ds.isEmpty || !ds.all isDigit then none
      else some (if down then -(digitsValue ds : Int) else digitsValue ds)
    else none

def decimal? (negative : Bool) (cs : List Char) : Option Extended := do
  let whole := cs.takeWhile isDigit
  let rest := cs.dropWhile isDigit
  let (fraction, rest) := match rest with
    | '.' :: rest => (rest.takeWhile isDigit, rest.dropWhile isDigit)
    | rest => ([], rest)
  if whole.isEmpty && fraction.isEmpty then none
  let e ← exponent? rest
  match Double.ofDecimal? negative (digitsValue (whole ++ fraction)) (e - fraction.length) with
  | some x => return finite x
  | none => return infinite negative

def ofLiteral? (s : String) : Option Extended :=
  let (negative, cs) := match s.toList with
    | '-' :: cs => (true, cs)
    | '+' :: cs => (false, cs)
    | cs => (false, cs)
  let word := String.ofList (cs.map Char.toLower)
  if word = "inf" ∨ word = "infinity" then some (infinite negative)
  else if word = "nan" then some nan
  else decimal? negative cs

/-- The whole part of a thousand times the number, within 0 and `2 ^ 64 - 1`. -/
def thousandfold : Extended → Nat
  | nan => 0
  | infinite negative => if negative then 0 else twoTo 64 - 1
  | finite x =>
    if x.negative then 0
    else match x.mul? ((Double.round? false 1000 1).getD default) with
      | some y => min y.floorAbs (twoTo 64 - 1)
      | none => twoTo 64 - 1

end Extended

end Concierge
