import Concierge.Unicode.Combining
import Concierge.Unicode.Composition

/-!
# Normal form

Texts that differ only in how characters are composed, or in the order of marks of different
classes, have one normal form: all characters are taken apart, the marks behind each base are put in
the order of their classes, and a base is composed with the marks behind it wherever no mark of the
same or a higher class stands in between.
-/

namespace Concierge.Unicode

/-- Put a character before others, behind the marks at their front that have a lower class. -/
def insertMark (c : Char) : List Char → List Char
  | [] => [c]
  | d :: ds =>
    if 0 < combiningClass d ∧ combiningClass d < combiningClass c then d :: insertMark c ds
    else c :: d :: ds

def orderMarks (cs : List Char) : List Char := cs.foldr insertMark []

/-- Nothing stands between a base and `c` that keeps them apart; `held` are the marks in between,
the last one first. -/
def reaches (held : List Char) (c : Char) : Bool :=
  match held with
  | [] => true
  | d :: _ => combiningClass d < combiningClass c

/-- Compose a base with the marks behind it; `held` are those it was not composed with, the last one
first. -/
def composeFrom (base : Char) (held : List Char) : List Char → List Char
  | [] => base :: held.reverse
  | c :: cs =>
    match if reaches held c then compose? base c else none with
    | some composed => composeFrom composed held cs
    | none =>
      if combiningClass c = 0 then base :: held.reverse ++ composeFrom c [] cs
      else composeFrom base (c :: held) cs

def composeAll : List Char → List Char
  | [] => []
  | c :: cs => if combiningClass c = 0 then composeFrom c [] cs else c :: composeAll cs

def normalize (cs : List Char) : List Char :=
  if cs.all isAscii then cs else composeAll (orderMarks (cs.flatMap parts))

end Concierge.Unicode
