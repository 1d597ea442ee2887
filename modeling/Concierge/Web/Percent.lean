import Concierge.Text.Digits

/-!
# Bytes as hexadecimal

Where a character may not stand for itself in an address, its bytes are written as a percent sign
and two digits of hexadecimal.
-/

namespace Concierge.Percent

def encodeByte (b : UInt8) : List Char :=
  let digit (n : Nat) : Char := (Nat.digitChar n).toUpper
  ['%', digit (b.toNat / 16), digit (b.toNat % 16)]

def bytes (c : Char) : List UInt8 := (String.singleton c).toUTF8.toList

/-- Write the characters of `set`, control characters and all beyond ASCII by their bytes. -/
def encode (set : List Char) (cs : List Char) : List Char :=
  cs.flatMap fun c =>
    if c.toNat < 0x20 || 0x7E < c.toNat || set.contains c then (bytes c).flatMap encodeByte
    else [c]

def byte? (a b : Char) : Option UInt8 := do
  return UInt8.ofNat (16 * (← Text.hexValue? a) + (← Text.hexValue? b))

/-- The bytes of a text. A percent sign without two digits stands for itself. -/
def decodeBytes : List Char → List UInt8
  | [] => []
  | '%' :: a :: b :: cs =>
    match byte? a b with
    | some byte => byte :: decodeBytes cs
    | none => bytes '%' ++ decodeBytes (a :: b :: cs)
  | c :: cs => bytes c ++ decodeBytes cs

/-- The text that is written so; none if the bytes are no text. -/
def decode? (cs : List Char) : Option (List Char) :=
  if cs.contains '%' then
    (String.fromUTF8? (ByteArray.mk (decodeBytes cs).toArray)).map String.toList
  else some cs

end Concierge.Percent
