import Concierge.Unicode.Combining
import Concierge.Unicode.Joining
import Concierge.Unicode.Mark
import Concierge.Unicode.Normal
import Concierge.Web.Domain.Mapping
import Concierge.Web.Domain.Punycode

/-!
# Labels of domain names

A domain name is made of labels with dots between them. A label that is not ASCII is sent in ASCII
behind `xn--`, and a label that begins so is given in that form.
-/

namespace Concierge.Domain

open Unicode

def isForbidden (c : Char) : Bool :=
  c.toNat ≤ 0x20 || c.toNat = 0x7F || "%#/:<>?@[\\]^|".toList.contains c

structure Label where
  text : List Char
  /-- The form in which it is sent. -/
  sent : List Char
deriving DecidableEq, Repr

namespace Label

/-- A character that asks the letters beside it to be joined, or not to be. -/
def isJoiner (c : Char) : Bool := c = '\u200c' || c = '\u200d'

/-- Joiners stand behind a virama; one that keeps letters apart may also stand between two that
would be connected. `before` is what precedes, the last character first. -/
def joinersFit (before : List Char) : List Char → Bool
  | [] => true
  | c :: cs =>
    (!isJoiner c || (before.head?.map isVirama).getD false ||
      (c = '\u200c' && joins [.left, .dual] before && joins [.right, .dual] cs)) &&
    joinersFit (c :: before) cs

def isAllowed (text : List Char) : Bool :=
  !text.any isForbidden && !(text.head?.map isMark).getD false && joinersFit [] text

def sentMark : List Char := ['x', 'n', '-', '-']

/-- The longest text that can be sent, and the longest form of it that can be read. -/
def longestText : Nat := 1000

def longestSent : Nat := 2000

/-- The text of what is sent behind `xn--`. It has to hold more than ASCII and to be in its final
form. -/
def decode? (sent : List Char) : Option (List Char) := do
  if longestSent < sent.length || sent.getLast? = some '-' then none
  let text ← Punycode.decode? sent
  if text.all isAscii || !text.all isValid || normalize text ≠ text ||
      sentMark.isPrefixOf text then none
  return text

def ofText? (cs : List Char) : Option Label := do
  let label ←
    if sentMark.isPrefixOf cs then
      if cs.all isAscii then (decode? (cs.drop 4)).map fun text => ⟨text, cs⟩ else none
    else if cs.all isAscii then some ⟨cs, cs⟩
    else if longestText < cs.length then none
    else some ⟨cs, sentMark ++ Punycode.encode cs⟩
  if isAllowed label.text then return label else none

/-! ## Directions -/

/-- A character that is written from the right, or a number that goes along with such. -/
def fromRight (c : Char) : Bool := direction c = .right || direction c = .arabicNumber

/-- The directions in a label between those of its first letter and the last character that is no
mark. -/
def directions (l : Label) : List Direction := l.text.map direction

def lastDirection? (ds : List Direction) : Option Direction :=
  (ds.reverse.dropWhile (· = .mark)).head?

/-- A label keeps to the direction of the letter that it begins with: it ends with a letter of that
direction or a number, holds no letter of the other one and not both kinds of numbers. -/
def keepsDirection (l : Label) : Bool :=
  let ds := l.directions
  match ds.head?, lastDirection? ds with
  | none, _ => true
  | some .left, some last =>
    ds.all (fun d => d ≠ .right && d ≠ .arabicNumber) && [Direction.left, .number].contains last
  | some .right, some last =>
    ds.all (· ≠ .left) && !(ds.contains .number && ds.contains .arabicNumber) &&
      [Direction.right, .number, .arabicNumber].contains last
  | _, _ => false

end Label

end Concierge.Domain
