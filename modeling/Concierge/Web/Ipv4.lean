import Concierge.Number.Power
import Concierge.Text.Digits
import Concierge.Text.Find

/-!
# Addresses of four bytes

An address of four bytes is written as one to four numbers with dots between them: each but the last
gives a byte, the last one gives the rest.
-/

namespace Concierge

structure Ipv4 where
  bytes : List Nat
deriving DecidableEq, Repr

namespace Ipv4

/-- A number: hexadecimal behind `0x`, octal behind `0`, else decimal. -/
def number? (cs : List Char) : Option Nat :=
  match cs with
  | [] => none
  | '0' :: 'x' :: ds => Text.valueInBase? 16 ds
  | '0' :: ds => Text.valueInBase? 8 ds
  | ds => Text.valueInBase? 10 ds

/-- What stands between the dots; a dot at the end counts for nothing. -/
def parts (cs : List Char) : List (List Char) :=
  let parts := Text.splitOn (· = '.') cs
  if 1 < parts.length ∧ parts.getLast? = some [] then parts.dropLast else parts

/-- The last part is meant as a number. -/
def isMeant (cs : List Char) : Bool :=
  match (parts cs).getLast? with
  | some part => !part.isEmpty && (part.all Text.isDigit || (number? part).isSome)
  | none => false

def bytesOf (count n : Nat) : List Nat :=
  (List.range count).map fun i => n / twoTo (8 * (count - 1 - i)) % 256

def ofChars? (cs : List Char) : Option Ipv4 := do
  let parts := parts cs
  if 4 < parts.length then none
  let numbers ← parts.mapM number?
  let last ← numbers.getLast?
  let bytes := numbers.dropLast
  let count := 4 - bytes.length
  if bytes.any (255 < ·) || twoTo (8 * count) ≤ last then none
  return ⟨bytes ++ bytesOf count last⟩

def text (a : Ipv4) : String := ".".intercalate (a.bytes.map toString)

end Ipv4

end Concierge
