import Concierge.Data.Value
import Concierge.Number.Shortest

/-!
# Writing JSON

Members are written in the order in which the data holds them, compactly or over indented lines.
-/

namespace Concierge.Json

/-- Numbers are positional from `10 ^ -5` up to `10 ^ 16`. -/
def numberLayout : Double.Layout := ⟨-5, 15⟩

def number : Number → List Char
  | .int n => (toString n).toList
  | .double x => (x.layout numberLayout).toList

def hexByte (n : Nat) : List Char := [Nat.digitChar (n / 16), Nat.digitChar (n % 16)]

/-- Quotation mark, backslash and the characters below U+0020 are escaped. -/
def escape (c : Char) : List Char :=
  match c with
  | '"' => ['\\', '"']
  | '\\' => ['\\', '\\']
  | '\n' => ['\\', 'n']
  | '\r' => ['\\', 'r']
  | '\t' => ['\\', 't']
  | '\x08' => ['\\', 'b']
  | '\x0c' => ['\\', 'f']
  | c => if c.toNat < 0x20 then '\\' :: 'u' :: '0' :: '0' :: hexByte c.toNat else [c]

def quoted (s : String) : List Char := '"' :: s.toList.flatMap escape ++ ['"']

mutual

def compactChars : Data → List Char
  | .null | .unreadable => ['n', 'u', 'l', 'l']
  | .bool true => ['t', 'r', 'u', 'e']
  | .bool false => ['f', 'a', 'l', 's', 'e']
  | .num n => number n
  | .str s => quoted s
  | .list xs => '[' :: compactItems xs
  | .record ms => '{' :: compactMembers ms

def compactItems : List Data → List Char
  | [] => [']']
  | [x] => compactChars x ++ [']']
  | x :: xs => compactChars x ++ ',' :: compactItems xs

def compactMembers : List (String × Data) → List Char
  | [] => ['}']
  | [(k, v)] => quoted k ++ ':' :: compactChars v ++ ['}']
  | (k, v) :: ms => quoted k ++ ':' :: compactChars v ++ ',' :: compactMembers ms

end

def newLine (level : Nat) : List Char := '\n' :: List.replicate (2 * level) ' '

mutual

def prettyChars (level : Nat) : Data → List Char
  | .null | .unreadable => ['n', 'u', 'l', 'l']
  | .bool true => ['t', 'r', 'u', 'e']
  | .bool false => ['f', 'a', 'l', 's', 'e']
  | .num n => number n
  | .str s => quoted s
  | .list [] => ['[', ']']
  | .list (x :: xs) =>
    '[' :: newLine (level + 1) ++ prettyChars (level + 1) x ++ prettyItems (level + 1) xs ++
      newLine level ++ [']']
  | .record [] => ['{', '}']
  | .record ((k, v) :: ms) =>
    '{' :: newLine (level + 1) ++ quoted k ++ ':' :: ' ' :: prettyChars (level + 1) v ++
      prettyMembers (level + 1) ms ++ newLine level ++ ['}']

def prettyItems (level : Nat) : List Data → List Char
  | [] => []
  | x :: xs => ',' :: newLine level ++ prettyChars level x ++ prettyItems level xs

def prettyMembers (level : Nat) : List (String × Data) → List Char
  | [] => []
  | (k, v) :: ms =>
    ',' :: newLine level ++ quoted k ++ ':' :: ' ' :: prettyChars level v ++
      prettyMembers level ms

end

def compact (d : Data) : String := String.ofList (compactChars d)

def pretty (d : Data) : String := String.ofList (prettyChars 0 d)

end Concierge.Json
