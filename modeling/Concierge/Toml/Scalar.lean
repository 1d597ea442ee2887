import Concierge.Data.Basic
import Concierge.Text.Digits
import Concierge.Time.Instant

/-!
# Numbers, dates and words of TOML

Whole numbers have 64 bits with a sign; digits may be grouped by underscores. A date or a time is
kept as a record that holds its text. Infinities and not-a-number have no value.
-/

namespace Concierge.Toml

open Text

/-! ## Digits -/

/-- Further digits of a number; an underscore stands between two digits. -/
def moreDigits? (digit : Char → Bool) : List Char → Option (List Char × List Char)
  | '_' :: c :: cs =>
    if digit c then (moreDigits? digit cs).map fun (ds, cs) => (c :: ds, cs) else none
  | c :: cs =>
    if c = '_' then none
    else if digit c then (moreDigits? digit cs).map fun (ds, cs) => (c :: ds, cs)
    else some ([], c :: cs)
  | [] => some ([], [])

def digits? (digit : Char → Bool) : List Char → Option (List Char × List Char)
  | c :: cs =>
    if digit c then (moreDigits? digit cs).map fun (ds, cs) => (c :: ds, cs) else none
  | [] => none

def sign : List Char → Bool × List Char
  | '-' :: cs => (true, cs)
  | '+' :: cs => (false, cs)
  | cs => (false, cs)

/-- The digits of a whole number; none follow a zero in front. -/
def whole? : List Char → Option (List Char × List Char)
  | '0' :: cs => some (['0'], cs)
  | cs => digits? isDigit cs

/-! ## Numbers -/

def intData? (n : Int) : Option Data :=
  if -(twoTo 63 : Int) ≤ n ∧ n < twoTo 63 then some (.num (.int n)) else none

def base? (c : Char) : Option Nat :=
  if c = 'x' then some 16 else if c = 'o' then some 8 else if c = 'b' then some 2 else none

def isDigitOf (base : Nat) (c : Char) : Bool := (valueInBase? base [c]).isSome

def decimal? (cs : List Char) : Option (Data × List Char) := do
  let (negative, cs) := sign cs
  let (ds, cs) ← whole? cs
  let n : Int := digitsValue ds
  return (← intData? (if negative then -n else n), cs)

def integer? (cs : List Char) : Option (Data × List Char) :=
  match cs with
  | '0' :: c :: rest =>
    match base? c with
    | some base => do
      let (ds, rest) ← digits? (isDigitOf base) rest
      return (← intData? (← valueInBase? base ds), rest)
    | none => decimal? cs
  | cs => decimal? cs

def fraction? : List Char → Option (List Char × List Char)
  | '.' :: cs => digits? isDigit cs
  | cs => some ([], cs)

def exponent? : List Char → Option (Int × List Char)
  | c :: cs =>
    if c = 'e' ∨ c = 'E' then do
      let (negative, cs) := sign cs
      let (ds, cs) ← digits? isDigit cs
      let n : Int := digitsValue ds
      return (if negative then -n else n, cs)
    else some (0, c :: cs)
  | [] => some (0, [])

/-- The double nearest to a decimal. One beyond the largest double is refused, one below the least
has no value. -/
def doubleData? (negative : Bool) (digits : Nat) (e : Int) : Option Data :=
  match Double.ofDecimal? negative digits e with
  | some x => some (.num (.double x))
  | none => if negative then some .unreadable else none

def float? (cs : List Char) : Option (Data × List Char) := do
  let (negative, cs) := sign cs
  let (whole, rest) ← whole? cs
  if rest.head? ≠ some '.' ∧ rest.head? ≠ some 'e' ∧ rest.head? ≠ some 'E' then none
  let (fraction, rest) ← fraction? rest
  let (e, rest) ← exponent? rest
  let d ← doubleData? negative (digitsValue (whole ++ fraction)) (e - fraction.length)
  return (d, rest)

def nonFinite? (cs : List Char) : Option (Data × List Char) :=
  match (sign cs).2 with
  | 'i' :: 'n' :: 'f' :: cs | 'n' :: 'a' :: 'n' :: cs => some (.unreadable, cs)
  | _ => none

/-! ## Dates and times -/

def field? (width low high : Nat) (cs : List Char) : Option (Nat × List Char) :=
  let ds := (cs.take width).takeWhile isDigit
  if ds.length = width ∧ low ≤ digitsValue ds ∧ digitsValue ds ≤ high then
    some (digitsValue ds, cs.drop width)
  else none

def mark? (c : Char) : List Char → Option (List Char)
  | d :: cs => if d = c then some cs else none
  | [] => none

def skipDate? (cs : List Char) : Option (List Char) := do
  let (year, cs) ← field? 4 0 9999 cs
  let cs ← mark? '-' cs
  let (month, cs) ← field? 2 1 12 cs
  let cs ← mark? '-' cs
  let (_, cs) ← field? 2 1 (Instant.daysInMonth year month) cs
  return cs

def skipPlaces : List Char → List Char
  | '.' :: c :: cs => if isDigit c then cs.dropWhile isDigit else '.' :: c :: cs
  | cs => cs

def skipTime? (cs : List Char) : Option (List Char) := do
  let (_, cs) ← field? 2 0 23 cs
  let cs ← mark? ':' cs
  let (_, cs) ← field? 2 0 59 cs
  let cs ← mark? ':' cs
  let (_, cs) ← field? 2 0 60 cs
  return skipPlaces cs

def skipOffset? (cs : List Char) : Option (List Char) :=
  match cs with
  | 'Z' :: cs | 'z' :: cs => some cs
  | c :: cs =>
    if c = '+' ∨ c = '-' then do
      let (_, cs) ← field? 2 0 23 cs
      let cs ← mark? ':' cs
      let (_, cs) ← field? 2 0 59 cs
      return cs
    else some (c :: cs)
  | [] => some []

def skipTimeOfDate? (cs : List Char) : Option (List Char) :=
  match cs with
  | 'T' :: cs | 't' :: cs | ' ' :: cs => do skipOffset? (← skipTime? cs)
  | _ => none

def moment? (cs : List Char) : Option (Data × List Char) := do
  let rest ← match skipDate? cs with
    | some rest => some ((skipTimeOfDate? rest).getD rest)
    | none => skipTime? cs
  let text := String.ofList (cs.take (cs.length - rest.length))
  return (.record [("moment", .str text)], rest)

/-! ## Scalars -/

def scalar? (cs : List Char) : Option (Data × List Char) :=
  match cs with
  | 't' :: 'r' :: 'u' :: 'e' :: cs => some (.bool true, cs)
  | 'f' :: 'a' :: 'l' :: 's' :: 'e' :: cs => some (.bool false, cs)
  | cs => moment? cs <|> float? cs <|> nonFinite? cs <|> integer? cs

end Concierge.Toml
