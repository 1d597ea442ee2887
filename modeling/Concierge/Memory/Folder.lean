import Concierge.Table

/-!
# A folder of files

A folder holds files and further folders under names. A file is read as a text; one whose bytes encode
none cannot be read. Each call on it may fail: the plan says how
the next calls go and calls beyond it succeed. A failed write may leave anything under the name that
it was to write; every other failed call changes nothing.
-/

namespace Concierge.Memory

inductive Node where
  | file (text : String)
  /-- A file whose bytes are no text. -/
  | binary (bytes : List UInt8) (undecodable : ¬ (ByteArray.mk bytes.toArray).IsValidUTF8)
  | folder
deriving DecidableEq

inductive Luck where
  | works
  /-- The call fails; a write leaves this under its name. -/
  | fails (leaves : Option Node)

structure Folder where
  present : Bool := false
  /-- Something else stands in its place. -/
  blocked : Bool := false
  nodes : Table String Node := []
  plan : List Luck := []

inductive FolderError where
  | notFound
  | other
deriving DecidableEq, Repr

namespace Folder

/-- How the next call goes, and the folder with the rest of its plan. -/
def next (f : Folder) : Luck × Folder :=
  match f.plan with
  | [] => (.works, f)
  | l :: ls => (l, { f with plan := ls })

def create (f : Folder) : Except FolderError Unit × Folder :=
  match f.next with
  | (.fails _, f) => (.error .other, f)
  | (.works, f) => if f.blocked then (.error .other, f) else (.ok (), { f with present := true })

def read (f : Folder) (name : String) : Except FolderError String × Folder :=
  match f.next with
  | (.fails _, f) => (.error .other, f)
  | (.works, f) =>
    if f.blocked then (.error .other, f)
    else match f.nodes.get? name with
      | none => (.error .notFound, f)
      | some (.binary _ _) | some .folder => (.error .other, f)
      | some (.file text) => (.ok text, f)

def write (f : Folder) (name text : String) : Except FolderError Unit × Folder :=
  match f.next with
  | (.fails none, f) => (.error .other, { f with nodes := f.nodes.erase name })
  | (.fails (some node), f) => (.error .other, { f with nodes := f.nodes.put name node })
  | (.works, f) =>
    if f.blocked ∨ !f.present ∨ f.nodes.get? name = some .folder then (.error .other, f)
    else (.ok (), { f with nodes := f.nodes.put name (.file text) })

/-- Give a file another name; a file that had it is replaced. -/
def rename (f : Folder) (old new : String) : Except FolderError Unit × Folder :=
  match f.next with
  | (.fails _, f) => (.error .other, f)
  | (.works, f) =>
    match f.nodes.get? old with
    | none => (.error .notFound, f)
    | some node =>
      if node ≠ .folder ∧ f.nodes.get? new = some .folder then (.error .other, f)
      else (.ok (), { f with nodes := (f.nodes.erase old).put new node })

end Folder

end Concierge.Memory
