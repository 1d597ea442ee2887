import Concierge.Text.Digits

/-!
# Blanks, comments, strings and keys of TOML

Each reader takes its part from the front of the text and leaves the rest. A line ends with a line
feed, with or without a carriage return before it.
-/

namespace Concierge.Toml

open Text

def skipBlanks (cs : List Char) : List Char := cs.dropWhile fun c => c = ' ' || c = '\t'

def newline? : List Char → Option (List Char)
  | '\n' :: cs => some cs
  | '\r' :: '\n' :: cs => some cs
  | _ => none

/-- Characters of comments and strings: all but control characters, of which only the tab. -/
def isPlain (c : Char) : Bool := c = '\t' || (0x20 ≤ c.toNat && c.toNat ≠ 0x7F)

def skipComment : List Char → List Char
  | '#' :: cs => cs.dropWhile isPlain
  | cs => cs

/-- What may follow on a line that is complete: blanks, a comment, the line end or the end. -/
def lineEnd? (cs : List Char) : Option (List Char) :=
  match skipComment (skipBlanks cs) with
  | [] => some []
  | cs => newline? cs

/-! ## Strings -/

def charOf? (n : Nat) : Option Char :=
  if n < 0xD800 ∨ (0xE000 ≤ n ∧ n < 0x110000) then some (Char.ofNat n) else none

def charOfHex? (digits : Nat) (cs : List Char) : Option (Char × List Char) := do
  if (cs.take digits).length ≠ digits then none
  let n ← valueInBase? 16 (cs.take digits)
  return (← charOf? n, cs.drop digits)

def escaped? : List Char → Option (Char × List Char)
  | 'b' :: cs => some ('\x08', cs)
  | 't' :: cs => some ('\t', cs)
  | 'n' :: cs => some ('\n', cs)
  | 'f' :: cs => some ('\x0c', cs)
  | 'r' :: cs => some ('\r', cs)
  | '"' :: cs => some ('"', cs)
  | '\\' :: cs => some ('\\', cs)
  | 'u' :: cs => charOfHex? 4 cs
  | 'U' :: cs => charOfHex? 8 cs
  | _ => none

/-- The kinds of strings: escapes are read only between double quotes. -/
inductive Quote where
  | double
  | single
deriving DecidableEq, Repr

namespace Quote

def char : Quote → Char
  | double => '"'
  | single => '\''

end Quote

def line? (q : Quote) (fuel : Nat) (cs : List Char) : Option (List Char × List Char) :=
  match fuel with
  | 0 => none
  | fuel + 1 =>
    match cs with
    | [] => none
    | c :: cs =>
      if c = q.char then some ([], cs)
      else if q = .double ∧ c = '\\' then do
        let (c, cs) ← escaped? cs
        (line? q fuel cs).map fun (s, cs) => (c :: s, cs)
      else if isPlain c then (line? q fuel cs).map fun (s, cs) => (c :: s, cs)
      else none

def skipLines : List Char → List Char
  | ' ' :: cs | '\t' :: cs | '\n' :: cs | '\r' :: '\n' :: cs => skipLines cs
  | cs => cs

/-- Drop blanks, a line end, and all blanks and line ends after it. -/
def skipJoint? (cs : List Char) : Option (List Char) := (newline? (skipBlanks cs)).map skipLines

/-- The characters of a string of several lines up to the three closing quotes. One or two further
quotes before these belong to the string, as do one or two quotes elsewhere. A backslash joins two
lines. -/
def paragraph? (q : Quote) (fuel : Nat) (cs : List Char) : Option (List Char × List Char) :=
  match fuel with
  | 0 => none
  | fuel + 1 =>
    let more (front : List Char) (cs : List Char) :=
      (paragraph? q fuel cs).map fun (s, cs) => (front ++ s, cs)
    match cs with
    | [] => none
    | c :: rest =>
      if c = q.char then
        let quotes := cs.takeWhile (· = q.char)
        if quotes.length < 3 then more quotes (cs.drop quotes.length)
        else
          let inner := min (quotes.length - 3) 2
          some (quotes.take inner, cs.drop (inner + 3))
      else if q = .double ∧ c = '\\' then
        match skipJoint? rest with
        | some cs => more [] cs
        | none => do
          let (c, cs) ← escaped? rest
          more [c] cs
      else match newline? cs with
        | some cs => more ['\n'] cs
        | none => if isPlain c then more [c] rest else none

/-- A string after its first quote. A line end right after three opening quotes is dropped. -/
def string? (q : Quote) (cs : List Char) : Option (String × List Char) := do
  let (s, cs) ←
    if cs.take 2 = [q.char, q.char] then
      let cs := cs.drop 2
      paragraph? q (cs.length + 1) ((newline? cs).getD cs)
    else line? q (cs.length + 1) cs
  return (String.ofList s, cs)

/-! ## Keys -/

def isKeyChar (c : Char) : Bool :=
  ('a' ≤ c && c ≤ 'z') || ('A' ≤ c && c ≤ 'Z') || isDigit c || c = '-' || c = '_'

def name? (cs : List Char) : Option (String × List Char) :=
  match cs with
  | '"' :: cs => (line? .double (cs.length + 1) cs).map fun (s, cs) => (String.ofList s, cs)
  | '\'' :: cs => (line? .single (cs.length + 1) cs).map fun (s, cs) => (String.ofList s, cs)
  | cs =>
    match cs.takeWhile isKeyChar with
    | [] => none
    | name => some (String.ofList name, cs.dropWhile isKeyChar)

def names? (fuel : Nat) (cs : List Char) : Option (List String × List Char) :=
  match fuel with
  | 0 => none
  | fuel + 1 => do
    let (name, cs) ← name? (skipBlanks cs)
    match skipBlanks cs with
    | '.' :: cs => (names? fuel cs).map fun (names, cs) => (name :: names, cs)
    | cs => some ([name], cs)

/-- A key: the path of tables and the name within the last of them. -/
structure Key where
  path : List String
  name : String
deriving DecidableEq, Repr

/-- How many names a key may have, and how deep values may nest, before they are refused. -/
def maxDepth : Nat := 80

def key? (cs : List Char) : Option (Key × List Char) := do
  let (names, cs) ← names? (cs.length + 1) cs
  if maxDepth ≤ names.length then none
  return (⟨names.dropLast, ← names.getLast?⟩, cs)

end Concierge.Toml
