/-!
# Digits

Decimal and hexadecimal digits of ASCII and the numbers they write, the most significant digit
first.
-/

namespace Concierge.Text

def isDigit (c : Char) : Bool := '0' ≤ c && c ≤ '9'

def digitValue (c : Char) : Nat := c.toNat - '0'.toNat

def digitsValue (ds : List Char) : Nat := ds.foldl (fun n c => 10 * n + digitValue c) 0

def hexValue? (c : Char) : Option Nat :=
  if '0' ≤ c ∧ c ≤ '9' then some (c.toNat - '0'.toNat)
  else if 'a' ≤ c ∧ c ≤ 'f' then some (c.toNat - 'a'.toNat + 10)
  else if 'A' ≤ c ∧ c ≤ 'F' then some (c.toNat - 'A'.toNat + 10)
  else none

/-- The number that digits of a base up to sixteen write; none if one of them is not such a digit. -/
def valueInBase? (base : Nat) (cs : List Char) : Option Nat :=
  cs.foldlM (fun n c => (hexValue? c).bind fun d => if d < base then some (base * n + d) else none) 0

end Concierge.Text
