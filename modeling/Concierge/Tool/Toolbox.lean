import Concierge.Dialogue.Request
import Concierge.Table
import Concierge.Tool.Output

/-!
# Toolboxes

A toolbox lists tools in the order in which their names were first registered, with an index of
their places by name. A tool whose name is taken replaces the one that has it, in its place.
-/

namespace Concierge

inductive Directory where
  /-- The specialists defined in the registry at the moment of asking. -/
  | registry
  | listed (roles : List String)
  /-- A list kept outside, read at the moment of asking. -/
  | posted
deriving DecidableEq, Repr

structure StoreId where
  place : Nat
deriving DecidableEq, Repr

inductive Tool where
  /-- A tool that is answered outside, under a number of its own. -/
  | outside (key : Nat) (definition : ToolDefinition)
  | requestHandoff (directory : Directory)
  | endHandoff
  | delegate
  | remember (store : StoreId)
  | lookUp (store : StoreId)

namespace Tool

def requestHandoffName : String := "request_sub_conversation"

def endHandoffName : String := "end_sub_conversation"

def delegateName : String := "delegate_task_to_specialist"

def rememberName : String := "remember_fact"

def lookUpName : String := "recall_fact"

def name : Tool → String
  | outside _ definition => definition.name
  | requestHandoff _ => requestHandoffName
  | endHandoff => endHandoffName
  | delegate => delegateName
  | remember _ => rememberName
  | lookUp _ => lookUpName

end Tool

structure Toolbox where
  tools : List Tool := []
  index : Table String Nat := []

namespace Toolbox

def empty : Toolbox := {}

def register (b : Toolbox) (t : Tool) : Toolbox :=
  match b.index.get? t.name with
  | some place => { b with tools := b.tools.set place t }
  | none => ⟨b.tools ++ [t], b.index.put t.name b.tools.length⟩

def extend (b other : Toolbox) : Toolbox := other.tools.foldl register b

def ofList (ts : List Tool) : Toolbox := ts.foldl register empty

def get? (b : Toolbox) (name : String) : Option Tool :=
  (b.index.get? name).bind (b.tools[·]?)

def has (b : Toolbox) (name : String) : Bool := b.index.has name

def names (b : Toolbox) : List String := b.tools.map Tool.name

def size (b : Toolbox) : Nat := b.tools.length

def isEmpty (b : Toolbox) : Bool := b.tools.isEmpty

variable {b : Toolbox} {name : String} {t t' : Tool}

theorem mem_of_get? (h : b.get? name = some t) : t ∈ b.tools := by
  unfold get? at h
  obtain ⟨place, -, found⟩ := Option.bind_eq_some_iff.mp h
  exact List.mem_of_getElem? found

theorem mem_register (h : t ∈ (b.register t').tools) : t = t' ∨ t ∈ b.tools := by
  unfold register at h
  split at h
  · exact (List.mem_or_eq_of_mem_set h).symm
  · rcases List.mem_append.mp h with old | new
    · exact Or.inr old
    · exact Or.inl (List.mem_singleton.mp new)

end Toolbox

end Concierge
