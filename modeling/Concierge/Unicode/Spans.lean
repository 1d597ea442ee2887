import Concierge.Text.Digits
import Concierge.Text.Find

/-!
# Spans of code points

A class of characters is a list of closed spans of code points. Tables are written as text, an entry
behind the other: `300-36F` is a span, `5BF` a span of one code point and `A8=20.308` a
span with the code points that it stands for. All code points are written in hexadecimal. The tables
follow Unicode 17.
-/

namespace Concierge.Unicode

def isAscii (c : Char) : Bool := c.toNat < 0x80

structure Span where
  first : Nat
  last : Nat
deriving DecidableEq, Repr

namespace Span

def holds (s : Span) (c : Char) : Bool := s.first ≤ c.toNat && c.toNat ≤ s.last

/-- Read `300-36F` or `5BF`. -/
def ofChars? (cs : List Char) : Option Span := do
  match ← (Text.splitOn (· = '-') cs).mapM (Text.valueInBase? 16) with
  | [n] => return ⟨n, n⟩
  | [first, last] => return ⟨first, last⟩
  | _ => none

end Span

def entries (table : String) : List (List Char) :=
  (Text.splitOn (fun c => c = ' ' || c = '\n') table.toList).filter (!·.isEmpty)

def spans (table : String) : List Span := (entries table).filterMap Span.ofChars?

def holds (ss : List Span) (c : Char) : Bool := ss.any (·.holds c)

def classOf? {α : Type} (classes : List (α × List Span)) (c : Char) : Option α :=
  (classes.find? fun e => holds e.2 c).map (·.1)

/-- Read `A8=20.308`. -/
def replacement? (cs : List Char) : Option (Span × List Char) := do
  match Text.splitOn (· = '=') cs with
  | [span, codes] =>
    let codes ← (Text.splitOn (· = '.') codes).mapM (Text.valueInBase? 16)
    return (← Span.ofChars? span, codes.map Char.ofNat)
  | _ => none

def replacements (table : String) : List (Span × List Char) :=
  (entries table).filterMap replacement?

end Concierge.Unicode
