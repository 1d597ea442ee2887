import Concierge.Data.Value
import Concierge.Text.Digits

/-!
# Reading JSON

The text is read to `Data`, records in the order of the text. Text that follows the grammar but has
no value is kept as `Data.unreadable`: a number beyond the largest double, a string with half of a
surrogate pair, lists and records nested in more than 126 others. A text that does not follow the
grammar is refused.
-/

namespace Concierge.Json

open Text

/-- How deep lists and records nest before they become unreadable. -/
def maxDepth : Nat := 127

def skipBlanks (cs : List Char) : List Char :=
  cs.dropWhile fun c => c = ' ' || c = '\n' || c = '\t' || c = '\r'

def expect? (word cs : List Char) : Option (List Char) :=
  if word.isPrefixOf cs then some (cs.drop word.length) else none

/-! ## Numbers -/

/-- The digits that are counted: as long as the number fits into 64 bits. The rest is dropped. -/
def significant (start : Nat) : List Char → Nat × List Char
  | [] => (start, [])
  | c :: cs =>
    if 10 * start + digitValue c < twoTo 64 then significant (10 * start + digitValue c) cs
    else (start, c :: cs)

structure Numeral where
  negative : Bool
  whole : List Char
  fraction : Option (List Char)
  exponent : Option (Bool × List Char)

/-- A number of many digits keeps those that fit into 64 bits; each digit of the whole part that is
left out raises the exponent, each digit of the fraction that is kept lowers it. -/
def Numeral.double? (n : Numeral) : Option Double := do
  let (s, left) := significant 0 n.whole
  let raised : Int := left.length
  let fraction := n.fraction.getD []
  let (s, dropped) := significant s fraction
  let kept : Int := fraction.length - dropped.length
  let exponent : Int := match n.exponent with
    | none => 0
    | some (down, ds) => if down then -(digitsValue ds : Int) else digitsValue ds
  let s ← Double.round? false s 1
  let x ← s.scaled? (raised - kept + exponent)
  return { x with negative := n.negative }

def Numeral.number? (n : Numeral) : Option Number :=
  let whole := digitsValue n.whole
  if n.fraction.isNone && n.exponent.isNone && !n.negative && whole < twoTo 64 then
    some (.int whole)
  else if n.fraction.isNone && n.exponent.isNone && n.negative && 0 < whole && whole ≤ twoTo 63 then
    some (.int (-whole))
  else n.double?.map .double

def Numeral.data (n : Numeral) : Data :=
  match n.number? with
  | some x => .num x
  | none => .unreadable

def digits? (cs : List Char) : Option (List Char × List Char) :=
  match cs.takeWhile isDigit with
  | [] => none
  | ds => some (ds, cs.dropWhile isDigit)

def fraction? : List Char → Option (Option (List Char) × List Char)
  | '.' :: cs => (digits? cs).map fun (ds, cs) => (some ds, cs)
  | cs => some (none, cs)

def exponent? : List Char → Option (Option (Bool × List Char) × List Char)
  | c :: cs =>
    if c = 'e' ∨ c = 'E' then
      let (down, cs) := match cs with
        | '-' :: cs => (true, cs)
        | '+' :: cs => (false, cs)
        | cs => (false, cs)
      (digits? cs).map fun (ds, cs) => (some (down, ds), cs)
    else some (none, c :: cs)
  | [] => some (none, [])

def numeral? (cs : List Char) : Option (Numeral × List Char) := do
  let (negative, cs) := match cs with
    | '-' :: cs => (true, cs)
    | cs => (false, cs)
  let (whole, cs) ← digits? cs
  if whole.head? = some '0' ∧ 1 < whole.length then none
  let (fraction, cs) ← fraction? cs
  let (exponent, cs) ← exponent? cs
  return (⟨negative, whole, fraction, exponent⟩, cs)

/-! ## Strings -/

def hexFour? (cs : List Char) : Option (Nat × List Char) := do
  if (cs.take 4).length ≠ 4 then none
  let n ← valueInBase? 16 (cs.take 4)
  return (n, cs.drop 4)

/-- What one unit of a string stands for: a character or one half of a surrogate pair. -/
inductive Unit16 where
  | char (c : Char)
  | high (n : Nat)
  | low (n : Nat)

def Unit16.ofCode (n : Nat) : Unit16 :=
  if 0xD800 ≤ n ∧ n ≤ 0xDBFF then .high n
  else if 0xDC00 ≤ n ∧ n ≤ 0xDFFF then .low n
  else .char (Char.ofNat n)

def units? (fuel : Nat) (cs : List Char) : Option (List Unit16 × List Char) :=
  match fuel with
  | 0 => none
  | fuel + 1 =>
    let more (u : Unit16) (cs : List Char) :=
      (units? fuel cs).map fun (us, cs) => (u :: us, cs)
    match cs with
    | [] => none
    | '"' :: cs => some ([], cs)
    | '\\' :: c :: cs =>
      match c with
      | '"' => more (.char '"') cs
      | '\\' => more (.char '\\') cs
      | '/' => more (.char '/') cs
      | 'b' => more (.char '\x08') cs
      | 'f' => more (.char '\x0c') cs
      | 'n' => more (.char '\n') cs
      | 'r' => more (.char '\r') cs
      | 't' => more (.char '\t') cs
      | 'u' => (hexFour? cs).bind fun (n, cs) => more (Unit16.ofCode n) cs
      | _ => none
    | c :: cs => if c = '\\' ∨ c.toNat < 0x20 then none else more (.char c) cs

def pairUp? : List Unit16 → Option (List Char)
  | [] => some []
  | .char c :: us => (pairUp? us).map (c :: ·)
  | .high h :: .low l :: us =>
    (pairUp? us).map (Char.ofNat (0x10000 + (h - 0xD800) * 0x400 + (l - 0xDC00)) :: ·)
  | _ => none

/-- A string after its opening quotation mark; its text is none if half of a pair is missing. -/
def string? (cs : List Char) : Option (Option String × List Char) :=
  (units? (cs.length + 1) cs).map fun (us, cs) => ((pairUp? us).map String.ofList, cs)

/-! ## Lists and records -/

def recordOf (ms : List (Option String × Data)) : Data :=
  match ms.mapM (fun (k, v) => k.map fun k => (k, v)) with
  | some ms => .record ms
  | none => .unreadable

mutual

def value? (fuel depth : Nat) (cs : List Char) : Option (Data × List Char) :=
  match fuel with
  | 0 => none
  | fuel + 1 =>
    match skipBlanks cs with
    | 'n' :: cs => (expect? ['u', 'l', 'l'] cs).map fun cs => (.null, cs)
    | 't' :: cs => (expect? ['r', 'u', 'e'] cs).map fun cs => (.bool true, cs)
    | 'f' :: cs => (expect? ['a', 'l', 's', 'e'] cs).map fun cs => (.bool false, cs)
    | '"' :: cs => (string? cs).map fun (s, cs) => ((s.map Data.str).getD .unreadable, cs)
    | '[' :: cs => do
      let (xs, cs) ← match skipBlanks cs with
        | ']' :: cs => some ([], cs)
        | cs => items? fuel (depth + 1) cs
      return (if depth < maxDepth then .list xs else .unreadable, cs)
    | '{' :: cs => do
      let (ms, cs) ← match skipBlanks cs with
        | '}' :: cs => some ([], cs)
        | cs => members? fuel (depth + 1) cs
      return (if depth < maxDepth then recordOf ms else .unreadable, cs)
    | cs => (numeral? cs).map fun (n, cs) => (n.data, cs)

def items? (fuel depth : Nat) (cs : List Char) : Option (List Data × List Char) :=
  match fuel with
  | 0 => none
  | fuel + 1 => do
    let (x, cs) ← value? fuel depth cs
    match skipBlanks cs with
    | ',' :: cs => (items? fuel depth cs).map fun (xs, cs) => (x :: xs, cs)
    | ']' :: cs => some ([x], cs)
    | _ => none

def members? (fuel depth : Nat) (cs : List Char) :
    Option (List (Option String × Data) × List Char) :=
  match fuel with
  | 0 => none
  | fuel + 1 => do
    let cs ← expect? ['"'] (skipBlanks cs)
    let (k, cs) ← string? cs
    let cs ← expect? [':'] (skipBlanks cs)
    let (v, cs) ← value? fuel depth cs
    match skipBlanks cs with
    | ',' :: cs => (members? fuel depth cs).map fun (ms, cs) => ((k, v) :: ms, cs)
    | '}' :: cs => some ([(k, v)], cs)
    | _ => none

end

def read? (s : String) : Option Data := do
  let cs := s.toList
  let (d, cs) ← value? (2 * cs.length + 2) 0 cs
  if (skipBlanks cs).isEmpty then some d else none

def readValue? (s : String) : Option Value := (read? s).bind Value.ofData?

end Concierge.Json
