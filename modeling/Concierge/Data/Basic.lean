import Concierge.Data.Sorted
import Concierge.Number.Double

/-!
# Structured data

`Data` is what a structured text holds as it is written: records keep the order of their members
and may repeat a name. Reading a record asks for its fields by name, passes over names it does not
know, refuses a known name that is repeated, and also accepts the fields without names, in order.
-/

namespace Concierge

/-- A number: a whole number within `-2 ^ 63` and `2 ^ 64 - 1`, or a double. -/
inductive Number where
  | int (n : Int)
  | double (x : Double)
deriving DecidableEq, Repr, Inhabited

inductive Data where
  | null
  | bool (b : Bool)
  | num (n : Number)
  | str (s : String)
  | list (items : List Data)
  | record (members : List (String × Data))
  /-- Well-formed text without a value, such as a number beyond the range of a double. It does no
  harm where it is passed over. -/
  | unreadable
deriving Repr, Inhabited, BEq

namespace Data

def isNull : Data → Bool
  | null => true
  | _ => false

def text? : Data → Option String
  | str s => some s
  | _ => none

def flag? : Data → Option Bool
  | bool b => some b
  | _ => none

def items? : Data → Option (List Data)
  | list xs => some xs
  | _ => none

def nat? : Data → Option Nat
  | num (.int n) => if 0 ≤ n then some n.toNat else none
  | _ => none

/-- The last member of that name. -/
def member? (name : String) : Data → Option Data
  | record ms => (ms.reverse.find? (·.1 = name)).map (·.2)
  | _ => none

/-! ## Fields of a record -/

/-- A field that a record is read for. A field with a default may also be missing at the end of a
record without names. -/
structure Slot where
  name : String
  hasDefault : Bool := false

def inOrder? : List Slot → List Data → Option (List (Option Data))
  | [], [] => some []
  | [], _ :: _ => none
  | _ :: ss, x :: xs => (inOrder? ss xs).map (some x :: ·)
  | s :: ss, [] => if s.hasDefault then (inOrder? ss []).map (none :: ·) else none

/-- The one member of that name, if there is one; a repeated name is refused. -/
def named? (ms : List (String × Data)) (name : String) : Option (Option Data) :=
  match ms.filter (·.1 = name) with
  | [] => some none
  | [m] => some (some m.2)
  | _ => none

def fields? (slots : List Slot) : Data → Option (List (Option Data))
  | record ms => slots.mapM fun s => named? ms s.name
  | list xs => inOrder? slots xs
  | _ => none

/-- The contents of the slots, where further items of a list are passed over. -/
def leadingFields? (slots : List Slot) : Data → Option (List (Option Data))
  | list xs => fields? slots (list (xs.take slots.length))
  | d => fields? slots d

def required (read : Data → Option α) (d : Option Data) : Option α := d.bind read

def optional (read : Data → Option α) : Option Data → Option (Option α)
  | none | some null => some none
  | some d => (read d).map some

def orElse (a : α) (read : Data → Option α) : Option Data → Option α
  | none => some a
  | some d => read d

/-- A choice without contents: its name, or a record of its name and null. -/
def choice? : Data → Option String
  | str s => some s
  | record [(s, null)] => some s
  | _ => none

/-- A choice with contents: a record of its name and the contents. -/
def choiceOf? : Data → Option (String × Data)
  | record [(s, d)] => some (s, d)
  | _ => none

def listOf? (read : Data → Option α) : Data → Option (List α)
  | list xs => xs.mapM read
  | _ => none

/-! ## Canonical data -/

/-- Members with ascending names; of members that share a name the last one counts. -/
def sortMembers (ms : List (String × Data)) : List (String × Data) :=
  ms.foldl (fun sorted m => insertSorted m.1 m.2 sorted) []

mutual

/-- The names of every record ascend and everything can be read. -/
def canonical : Data → Bool
  | list xs => canonicalItems xs
  | record ms => ascending (ms.map (·.1)) && canonicalMembers ms
  | unreadable => false
  | _ => true

def canonicalItems : List Data → Bool
  | [] => true
  | x :: xs => x.canonical && canonicalItems xs

def canonicalMembers : List (String × Data) → Bool
  | [] => true
  | (_, v) :: ms => v.canonical && canonicalMembers ms

end

mutual

def canonicalize? : Data → Option Data
  | list xs => (canonicalizeItems? xs).map list
  | record ms => (canonicalizeMembers? ms).map fun ms => record (sortMembers ms)
  | unreadable => none
  | d => some d

def canonicalizeItems? : List Data → Option (List Data)
  | [] => some []
  | x :: xs => do
    let x ← x.canonicalize?
    let xs ← canonicalizeItems? xs
    return x :: xs

def canonicalizeMembers? : List (String × Data) → Option (List (String × Data))
  | [] => some []
  | (k, v) :: ms => do
    let v ← v.canonicalize?
    let ms ← canonicalizeMembers? ms
    return (k, v) :: ms

end

end Data

end Concierge
