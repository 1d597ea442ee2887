import Concierge.Handoff.Specialist
import Concierge.Toml.Reader

/-!
# Settings

The settings file is TOML with a table for each part of the program. What it leaves out has a
default; names it should not know are passed over.
-/

namespace Concierge

open Data

namespace Settings

structure Service where
  apiKey : Option String := none
  model : Option String := none
  baseUrl : Option String := none
deriving DecidableEq, Repr

/-- The bounds and abilities of the agents. Timeouts are in seconds. -/
structure Agents where
  maxIterations : Nat := 10
  modelTimeout : Nat := 120
  toolTimeout : Nat := 60
  search : Bool := false
  thinking : Bool := false
deriving DecidableEq, Repr

structure Coordinator where
  role : String := "coordinator"
  objective : String :=
    "Help the user, handing the conversation to a specialist when one is better suited"
  context : String := ""
deriving DecidableEq, Repr

inductive Backend where
  | none
  | memory
  | file
deriving DecidableEq, Repr

structure Memory where
  backend : Backend := .none
  /-- All sessions use the same store. -/
  shared : Bool := true
  folder : Option String := none
deriving DecidableEq, Repr

end Settings

structure Settings where
  service : Settings.Service := {}
  agents : Settings.Agents := {}
  coordinator : Settings.Coordinator := {}
  specialists : List Specialist := []
  memory : Settings.Memory := {}
deriving DecidableEq, Repr

namespace Settings

/-! ## Reading -/

def slots (names : List String) : List Slot := names.map fun name => ⟨name, true⟩

def Service.decode? (d : Data) : Option Service := do
  match ← d.leadingFields? [⟨"api_key", false⟩, ⟨"model", false⟩, ⟨"base_url", false⟩] with
  | [apiKey, model, baseUrl] =>
    return ⟨← optional Data.text? apiKey, ← optional Data.text? model,
      ← optional Data.text? baseUrl⟩
  | _ => none

def Agents.decode? (d : Data) : Option Agents := do
  let other : Agents := {}
  match ← d.leadingFields? (slots ["max_iterations", "model_timeout_secs", "tool_timeout_secs",
      "enable_google_search", "thinking_model"]) with
  | [maxIterations, modelTimeout, toolTimeout, search, thinking] =>
    return ⟨← orElse other.maxIterations Data.nat? maxIterations,
      ← orElse other.modelTimeout Data.nat? modelTimeout,
      ← orElse other.toolTimeout Data.nat? toolTimeout,
      ← orElse other.search Data.flag? search, ← orElse other.thinking Data.flag? thinking⟩
  | _ => none

def Coordinator.decode? (d : Data) : Option Coordinator := do
  let other : Coordinator := {}
  match ← d.leadingFields? (slots ["role", "objective", "context"]) with
  | [role, objective, context] =>
    return ⟨← orElse other.role Data.text? role, ← orElse other.objective Data.text? objective,
      ← orElse other.context Data.text? context⟩
  | _ => none

namespace Backend

def name : Backend → String
  | none => "none"
  | memory => "memory"
  | file => "file"

def ofName? (s : String) : Option Backend :=
  if s = "none" then some none
  else if s = "memory" then some memory
  else if s = "file" then some file
  else Option.none

/-- The name, or a table with an empty table or an empty list under the name. -/
def decode? (d : Data) : Option Backend :=
  match d with
  | .str s => ofName? s
  | .record [(s, .record [])] | .record [(s, .list [])] => ofName? s
  | _ => Option.none

end Backend

def Memory.decode? (d : Data) : Option Memory := do
  let other : Memory := {}
  match ← d.leadingFields? (slots ["backend", "shared", "dir"]) with
  | [backend, shared, folder] =>
    return ⟨← orElse other.backend Backend.decode? backend, ← orElse other.shared Data.flag? shared,
      ← optional Data.text? folder⟩
  | _ => none

def specialist? (d : Data) : Option Specialist :=
  (d.leadingFields? Specialist.slots).bind Specialist.ofFields?

def decode? (d : Data) : Option Settings := do
  match ← d.leadingFields? (slots ["api", "agent", "coordinator", "specialists", "memory"]) with
  | [service, agents, coordinator, specialists, memory] =>
    return ⟨← orElse {} Service.decode? service, ← orElse {} Agents.decode? agents,
      ← orElse {} Coordinator.decode? coordinator, ← orElse [] (listOf? specialist?) specialists,
      ← orElse {} Memory.decode? memory⟩
  | _ => none

def ofText? (s : String) : Option Settings := (Toml.read? s).bind decode?

/-! ## Writing -/

def textOrNull (s : Option String) : Data := (s.map Data.str).getD .null

def number (n : Nat) : Data := .num (.int n)

def Service.encode (s : Service) : Data :=
  .record [("api_key", textOrNull s.apiKey), ("model", textOrNull s.model),
    ("base_url", textOrNull s.baseUrl)]

def Agents.encode (s : Agents) : Data :=
  .record [("max_iterations", number s.maxIterations),
    ("model_timeout_secs", number s.modelTimeout), ("tool_timeout_secs", number s.toolTimeout),
    ("enable_google_search", .bool s.search), ("thinking_model", .bool s.thinking)]

def Coordinator.encode (s : Coordinator) : Data :=
  .record [("role", .str s.role), ("objective", .str s.objective), ("context", .str s.context)]

def Memory.encode (s : Memory) : Data :=
  .record [("backend", .str s.backend.name), ("shared", .bool s.shared),
    ("dir", textOrNull s.folder)]

def encode (s : Settings) : Data :=
  .record [("api", s.service.encode), ("agent", s.agents.encode),
    ("coordinator", s.coordinator.encode),
    ("specialists", .list (s.specialists.map Specialist.encode)), ("memory", s.memory.encode)]

end Settings

end Concierge
