import Concierge.Number.Power
import Concierge.Text.Digits

/-!
# Chat ids

A chat id has 128 bits. Its text has 32 digits of hexadecimal in five groups.
-/

namespace Concierge

structure ChatId where
  bits : BitVec 128
deriving DecidableEq, Repr, Inhabited

namespace ChatId

def digit (c : ChatId) (i : Nat) : Char := Nat.digitChar (c.bits.toNat / twoTo (4 * (31 - i)) % 16)

/-- The text in lower case, a dash after 8, 12, 16 and 20 digits. -/
def text (c : ChatId) : String :=
  let ds := (List.range 32).map c.digit
  let group (a b : Nat) := (ds.drop a).take b
  String.ofList (group 0 8 ++ '-' :: group 8 4 ++ '-' :: group 12 4 ++ '-' :: group 16 4 ++
    '-' :: group 20 12)

def ofDigits? (cs : List Char) : Option ChatId := do
  let n ← Text.valueInBase? 16 cs
  return ⟨BitVec.ofNat 128 n⟩

def ofGroups? (cs : List Char) : Option ChatId :=
  let group (a b : Nat) := (cs.drop a).take b
  if cs.length = 36 ∧ group 8 1 = ['-'] ∧ group 13 1 = ['-'] ∧ group 18 1 = ['-'] ∧
      group 23 1 = ['-'] then
    ofDigits? (group 0 8 ++ group 9 4 ++ group 14 4 ++ group 19 4 ++ group 24 12)
  else none

/-- Digits in either case, without dashes, in groups, in groups within braces, or in groups behind
the scheme `urn:uuid:`. -/
def ofText? (s : String) : Option ChatId :=
  let cs := s.toList
  if cs.length = 32 then ofDigits? cs
  else if cs.length = 36 then ofGroups? cs
  else if cs.length = 38 ∧ cs.head? = some '\x7b' ∧ cs.getLast? = some '\x7d' then
    ofGroups? ((cs.drop 1).take 36)
  else if cs.length = 45 ∧ cs.take 9 = "urn:uuid:".toList then ofGroups? (cs.drop 9)
  else none

end ChatId

end Concierge
