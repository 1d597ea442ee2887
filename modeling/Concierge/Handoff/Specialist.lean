import Concierge.Data.Basic

/-!
# Specialists

A specialist is an agent that the coordinator may hand the conversation to.
-/

namespace Concierge

open Data

structure Specialist where
  role : String
  objective : String
  context : String := ""
  model : Option String := none
  search : Bool := false
deriving DecidableEq, Repr

namespace Specialist

def encode (s : Specialist) : Data :=
  .record [("role", .str s.role), ("objective", .str s.objective), ("context", .str s.context),
    ("model", (s.model.map Data.str).getD .null), ("enable_google_search", .bool s.search)]

def slots : List Slot :=
  [⟨"role", false⟩, ⟨"objective", false⟩, ⟨"context", true⟩, ⟨"model", true⟩,
    ⟨"enable_google_search", true⟩]

def ofFields? : List (Option Data) → Option Specialist
  | [role, objective, context, model, search] => do
    return ⟨← required Data.text? role, ← required Data.text? objective,
      ← orElse "" Data.text? context, ← optional Data.text? model,
      ← orElse false Data.flag? search⟩
  | _ => none

def decode? (d : Data) : Option Specialist := (d.fields? slots).bind ofFields?

end Specialist

end Concierge
