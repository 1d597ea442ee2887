import Concierge.Data.Basic
import Concierge.Table
import Concierge.Toml.Text

/-!
# Tables of TOML

A table is opened once: by a header, by the header of a table within it, by a dotted key or as a
value. What may be added to it later depends on that. Tables that share a header with double
brackets form a list, of which the last one is open.
-/

namespace Concierge.Toml

inductive Origin where
  | header
  /-- By the header of a table within it; it may still get one of its own. -/
  | implied
  /-- By a dotted key; only dotted keys and headers of further tables within it may add to it. -/
  | dotted
deriving DecidableEq, Repr

inductive Item where
  /-- A value, which cannot be added to. -/
  | value (d : Data)
  | table (origin : Origin) (members : List (String × Item))
  | tables (ts : List (List (String × Item)))

abbrev Members := Table String Item

mutual

def Item.data : Item → Data
  | .value d => d
  | .table _ ms => .record (membersData ms)
  | .tables ts => .list (tablesData ts)

def membersData : List (String × Item) → List (String × Data)
  | [] => []
  | (k, item) :: ms => (k, item.data) :: membersData ms

def tablesData : List (List (String × Item)) → List Data
  | [] => []
  | ms :: ts => .record (membersData ms) :: tablesData ts

end

/-- Change the table at a path; tables that are missing on the way are made. The names of a dotted
key do not lead into tables that have a header. -/
def changeAt (byKey : Bool) (f : Origin → Members → Option Members) :
    (path : List String) → Origin → Members → Option Members
  | [], origin, ms => f origin ms
  | k :: path, _, ms =>
    match ms.get? k with
    | none =>
      let origin : Origin := if byKey then .dotted else .implied
      (changeAt byKey f path origin []).map fun new => ms.put k (.table origin new)
    | some (.table origin inner) =>
      if byKey ∧ origin = .header then none
      else (changeAt byKey f path origin inner).map fun new => ms.put k (.table origin new)
    | some (.tables ts) =>
      ts.getLast?.bind fun last =>
        (changeAt byKey f path .header last).map fun new => ms.put k (.tables (ts.dropLast ++ [new]))
    | some (.value _) => none

structure Pair where
  key : Key
  value : Data

/-- Add a pair to a table with a header. The names before the last one lead to a table that dotted
keys have opened. -/
def Members.add? (ms : Members) (p : Pair) : Option Members :=
  changeAt true (fun origin ms =>
    if (!p.key.path.isEmpty && origin ≠ .dotted) || ms.has p.key.name then none
    else some (ms.put p.key.name (.value p.value))) p.key.path .header ms

def Members.addAll? (ms : Members) (ps : List Pair) : Option Members := ps.foldlM Members.add? ms

/-! ## Sections -/

inductive Heading where
  | root
  | table (key : Key)
  | entry (key : Key)

structure Section where
  heading : Heading
  pairs : List Pair

def Members.open? (root : Members) (s : Section) : Option Members :=
  match s.heading with
  | .root => root.addAll? s.pairs
  | .table key =>
    changeAt false (fun _ ms => do
      let inner ← match ms.get? key.name with
        | none => some []
        | some (.table .implied inner) => some inner
        | some _ => none
      return ms.put key.name (.table .header (← Members.addAll? inner s.pairs))) key.path .header root
  | .entry key =>
    changeAt false (fun _ ms => do
      let ts ← match ms.get? key.name with
        | none => some []
        | some (.tables ts) => some ts
        | some _ => none
      return ms.put key.name (.tables (ts ++ [← Members.addAll? [] s.pairs]))) key.path .header root

def recordOf? (ss : List Section) : Option Data := do
  let root ← ss.foldlM Members.open? ([] : Members)
  return .record (membersData root)

def inlineRecord? (ps : List Pair) : Option Data := recordOf? [⟨.root, ps⟩]

end Concierge.Toml
