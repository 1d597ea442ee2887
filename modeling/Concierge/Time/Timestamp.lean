import Concierge.Number.Power
import Concierge.Text.Blank
import Concierge.Text.Digits
import Concierge.Time.Instant

/-!
# Timestamps

An instant is written as a date and a time of day in universal time, with as many of zero, three,
six or nine places of the second as it needs. Reading also takes a blank for the `T`, blanks between
the parts, years with a sign, an offset in hours and minutes, and the word `UTC`.
-/

namespace Concierge.Instant

open Text

def padded (width n : Nat) : String :=
  let ds := toString n
  "".pushn '0' (width - ds.length) ++ ds

/-- A year outside of 0 to 9999 has a sign. -/
def yearText (year : Int) : String :=
  if 0 ≤ year ∧ year ≤ 9999 then padded 4 year.toNat
  else (if year < 0 then "-" else "+") ++ padded 4 year.natAbs

def fractionText (nanos : Nat) : String :=
  if nanos = 0 then ""
  else if nanos % 1000000 = 0 then "." ++ padded 3 (nanos / 1000000)
  else if nanos % 1000 = 0 then "." ++ padded 6 (nanos / 1000)
  else "." ++ padded 9 nanos

def text (t : Instant) : String :=
  let date := Date.ofDayNumber (t.seconds / 86400)
  let clock := (t.seconds % 86400).toNat
  let leap := 1000000000 ≤ t.nanos
  let second := clock % 60 + if leap then 1 else 0
  let nanos := if leap then t.nanos - 1000000000 else t.nanos
  yearText date.year ++ "-" ++ padded 2 date.month ++ "-" ++ padded 2 date.day ++ "T" ++
    padded 2 (clock / 3600) ++ ":" ++ padded 2 (clock / 60 % 60) ++ ":" ++ padded 2 second ++
    fractionText nanos ++ "Z"

/-! ## Reading -/

/-- A number of one to `width` digits, after blanks. -/
def number? (width : Nat) (cs : List Char) : Option (Nat × List Char) :=
  let cs := Text.trimStart cs
  match (cs.take width).takeWhile isDigit with
  | [] => none
  | ds => some (digitsValue ds, cs.drop ds.length)

/-- A year of up to four digits, or with a sign of any number of digits below `2 ^ 63`. -/
def year? (cs : List Char) : Option (Int × List Char) :=
  let signed (cs : List Char) : Option (Nat × List Char) :=
    match cs.takeWhile isDigit with
    | [] => none
    | ds => if digitsValue ds < twoTo 63 then some (digitsValue ds, cs.drop ds.length) else none
  match Text.trimStart cs with
  | '-' :: cs => (signed cs).map fun (n, cs) => (-(n : Int), cs)
  | '+' :: cs => (signed cs).map fun (n, cs) => ((n : Int), cs)
  | cs => (number? 4 cs).map fun (n, cs) => ((n : Int), cs)

def mark? (c : Char) (cs : List Char) : Option (List Char) :=
  match Text.trimStart cs with
  | d :: cs => if d = c then some cs else none
  | [] => none

/-- The places of a second; those after the ninth are passed over. -/
def places? : List Char → Option (Nat × List Char)
  | '.' :: cs =>
    match (cs.take 9).takeWhile isDigit with
    | [] => none
    | ds => some (digitsValue ds * tenTo (9 - ds.length), cs.dropWhile isDigit)
  | cs => some (0, cs)

def offset? (cs : List Char) : Option (Int × List Char) :=
  match cs with
  | 'Z' :: cs | 'z' :: cs => some (0, cs)
  | sign :: h₁ :: h₂ :: cs =>
    if (sign = '+' ∨ sign = '-' ∨ sign = '−') ∧ isDigit h₁ ∧ isDigit h₂ then
      match cs.dropWhile fun c => c = ':' || Text.isBlank c with
      | m₁ :: m₂ :: cs =>
        if '0' ≤ m₁ ∧ m₁ ≤ '5' ∧ isDigit m₂ then
          let n : Int := digitsValue [h₁, h₂] * 3600 + digitsValue [m₁, m₂] * 60
          some (if sign = '+' then n else -n, cs)
        else none
      | _ => none
    else none
  | _ => none

def zone? (cs : List Char) : Option (Int × List Char) :=
  if (cs.take 3).map Char.toUpper = ['U', 'T', 'C'] then some (0, cs.drop 3) else offset? cs

def ofText? (s : String) : Option Instant := do
  let (year, cs) ← year? s.toList
  let cs ← mark? '-' cs
  let (month, cs) ← number? 2 cs
  let cs ← mark? '-' cs
  let (day, cs) ← number? 2 cs
  let cs ← match cs with
    | 'T' :: cs | 't' :: cs | ' ' :: cs => some cs
    | _ => none
  let (hour, cs) ← number? 2 cs
  let cs ← mark? ':' cs
  let (minute, cs) ← number? 2 cs
  let cs ← mark? ':' cs
  let (second, cs) ← number? 2 cs
  let (nanos, cs) ← places? cs
  let (offset, cs) ← zone? (Text.trimStart cs)
  if !(Text.trimStart cs).isEmpty then none
  if year < minYear ∨ maxYear < year ∨ month < 1 ∨ 12 < month ∨ day < 1 ∨
      daysInMonth year month < day ∨ 23 < hour ∨ 59 < minute ∨ 60 < second ∨
      86400 ≤ offset.natAbs then none
  let leap := second = 60
  let clock := hour * 3600 + minute * 60 + if leap then 59 else second
  let seconds := Date.dayNumber ⟨year, month, day⟩ * 86400 + clock - offset
  let utcYear := (Date.ofDayNumber (seconds / 86400)).year
  if utcYear < minYear ∨ maxYear < utcYear then none
  return ⟨seconds, nanos + if leap then 1000000000 else 0⟩

end Concierge.Instant
