import Concierge.Agent.Basic
import Concierge.Handoff.Specialist
import Concierge.Registry.Error

/-!
# The registry of specialists

The registry holds the definitions of the specialists and the tools of each role, and keeps the
providers and agents that were made from them. Defining specialists anew drops what was made; new
tools drop the agent of their role. Both raise the generation.
-/

namespace Concierge

/-- An agent that the registry has made, with a number that tells it from all others it made. -/
structure Registered where
  serial : Nat
  agent : Agent

structure Registry where
  defaultModel : String := "main"
  limits : Limits := {}
  backend : Backend := .outside
  generation : Nat := 0
  definitions : List Specialist := []
  toolboxes : Table String Toolbox := []
  providers : Table String Provider := []
  agents : Table String Registered := []
  made : Nat := 0

namespace Registry

/-- One definition for each role, the last one given, in the order in which the roles first occur. -/
def distinct (ds : List Specialist) : List Specialist :=
  (ds.foldl (fun (t : Table String Specialist) d => t.put d.role d) []).map (·.2)

def configure (r : Registry) (ds : List Specialist) : Registry :=
  { r with
    definitions := distinct ds
    providers := []
    agents := []
    generation := r.generation + 1 }

def setTools (r : Registry) (role : String) (tools : Toolbox) : Registry :=
  { r with
    toolboxes := r.toolboxes.put role tools
    agents := r.agents.erase role
    generation := r.generation + 1 }

def toolsFor (r : Registry) (role : String) : Toolbox := (r.toolboxes.get? role).getD {}

def roles (r : Registry) : List String := r.definitions.map Specialist.role

def definition? (r : Registry) (role : String) : Option Specialist :=
  r.definitions.find? (·.role = role)

def validate (r : Registry) (role : String) : Except RegistryError Specialist :=
  match r.definition? role with
  | some d => .ok d
  | none => .error (.unknownRole role r.roles)

def modelOf (r : Registry) (d : Specialist) : String := d.model.getD r.defaultModel

def agentFor (r : Registry) (d : Specialist) (provider : Provider) : Agent where
  role := d.role
  objective := d.objective
  context := d.context
  provider := provider
  tools := r.toolsFor d.role
  search := d.search
  limits := r.limits

def addProvider (r : Registry) (model : String) : Provider × Registry :=
  let p : Provider := ⟨r.backend, model, r.made⟩
  (p, { r with providers := r.providers.put model p, made := r.made + 1 })

def addAgent (r : Registry) (role : String) (a : Agent) : Registered × Registry :=
  let e : Registered := ⟨r.made, a⟩
  (e, { r with agents := r.agents.put role e, made := r.made + 1 })

/-- Note the task that an agent is given, if the registry still has that agent. -/
def setTask (r : Registry) (role : String) (serial : Nat) (task : String) : Registry :=
  match r.agents.get? role with
  | some e =>
    if e.serial = serial then
      { r with agents := r.agents.put role { e with agent := { e.agent with task := some task } } }
    else r
  | none => r

end Registry

end Concierge
