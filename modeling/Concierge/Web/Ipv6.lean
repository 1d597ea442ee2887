import Concierge.Text.Digits
import Concierge.Text.Find

/-!
# Addresses of eight pieces

An address of eight pieces of two bytes is written in hexadecimal with colons between the pieces.
Two colons stand for pieces that are zero, and the last two pieces may be written as four bytes.
-/

namespace Concierge

structure Ipv6 where
  pieces : List Nat
deriving DecidableEq, Repr

namespace Ipv6

def piece? (cs : List Char) : Option Nat :=
  if cs.isEmpty || 4 < cs.length then none else Text.valueInBase? 16 cs

def byte? (cs : List Char) : Option Nat := do
  if cs.isEmpty || (1 < cs.length && cs.head? = some '0') then none
  let n ← Text.valueInBase? 10 cs
  if n ≤ 255 then return n else none

def twoPieces? (cs : List Char) : Option (List Nat) := do
  match ← (Text.splitOn (· = '.') cs).mapM byte? with
  | [a, b, c, d] => return [256 * a + b, 256 * c + d]
  | _ => none

/-- The pieces of a text; `isLast` says that four bytes may stand at its end. -/
def pieces? (isLast : Bool) (cs : List Char) : Option (List Nat) :=
  if cs.isEmpty then some []
  else
    let parts := Text.splitOn (· = ':') cs
    match parts.getLast? with
    | some last =>
      if isLast && last.contains '.' then do
        return (← parts.dropLast.mapM piece?) ++ (← twoPieces? last)
      else parts.mapM piece?
    | none => none

def ofChars? (cs : List Char) : Option Ipv6 := do
  match Text.splitFirst? (Text.startsWith [':', ':']) 2 cs with
  | none =>
    let pieces ← pieces? true cs
    if pieces.length = 8 then return ⟨pieces⟩ else none
  | some (before, after) =>
    let before ← pieces? false before
    let after ← pieces? true after
    let given := before.length + after.length
    if given < 8 then return ⟨before ++ List.replicate (8 - given) 0 ++ after⟩ else none

/-! ## Writing -/

def zeros (ps : List Nat) : Nat := (ps.takeWhile (· = 0)).length

/-- The longest run of zeros, or the first of them, with the number of pieces before it. -/
def longestZeros (ps : List Nat) : Nat × Nat :=
  (List.range ps.length).foldl
    (fun best i => if best.2 < zeros (ps.drop i) then (i, zeros (ps.drop i)) else best) (0, 0)

def joined (ps : List Nat) : String :=
  ":".intercalate (ps.map fun p => String.ofList (Nat.toDigits 16 p))

/-- Two colons stand for the longest run of zeros, if there is more than one. -/
def text (a : Ipv6) : String :=
  let (place, count) := longestZeros a.pieces
  if count < 2 then joined a.pieces
  else joined (a.pieces.take place) ++ "::" ++ joined (a.pieces.drop (place + count))

end Ipv6

end Concierge
