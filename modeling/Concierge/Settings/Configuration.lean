import Concierge.Settings.Basic
import Concierge.Settings.Error
import Concierge.Text.Blank

/-!
# The configuration of a run

What the command line says goes before the environment, the environment before the settings file,
and the file before the defaults. A configuration has a key that is not blank, allows at least one
iteration and defines each specialist once, under a role of its own.
-/

namespace Concierge

structure Overrides where
  apiKey : Option String := none
  model : Option String := none
  backend : Option Settings.Backend := none
deriving DecidableEq, Repr

structure Environment where
  apiKey : Option String := none
  model : Option String := none
  baseUrl : Option String := none
deriving DecidableEq, Repr

structure MemoryPlace where
  backend : Settings.Backend
  shared : Bool
  folder : String
deriving DecidableEq, Repr

structure Configuration where
  apiKey : String
  model : String
  baseUrl : String
  /-- The folder of the settings file. -/
  folder : String
  agents : Settings.Agents
  coordinator : Settings.Coordinator
  specialists : List Specialist
  memory : MemoryPlace
deriving DecidableEq, Repr

namespace Configuration

def defaultModel : String := "gemini-2.0-flash"

def defaultBaseUrl : String := "https://generativelanguage.googleapis.com"

def pathIn (folder name : String) : String :=
  if folder.isEmpty || folder.endsWith "/" then folder ++ name else folder ++ "/" ++ name

/-- The folder that the environment names, else a hidden one at home. -/
def settingsFolder (given home : Option String) : String :=
  given.getD (pathIn (home.getD ".") ".switchboard")

/-- The first key that is given, unless it is blank. -/
def apiKey? (o : Overrides) (e : Environment) (s : Settings) : Except SettingsError String :=
  match o.apiKey <|> e.apiKey <|> s.service.apiKey with
  | some key => if Text.blank key then .error missing else .ok key
  | none => .error missing
where
  missing : SettingsError :=
    .missing "api_key (set GEMINI_API_KEY or add to ~/.switchboard/config.toml)"

/-- Add a specialist; an earlier one of the same role is dropped. -/
def addSpecialist (coordinator : String) (kept : List Specialist) (s : Specialist) :
    Except SettingsError (List Specialist) :=
  if Text.blank s.role then .error (.invalid "specialists.role" "must not be empty")
  else if s.role = coordinator then
    .error (.invalid "specialists.role" ("'" ++ s.role ++ "' is the coordinator's role"))
  else .ok (kept.eraseP (·.role = s.role) ++ [s])

/-- The specialists of the settings in the order of their last definitions. -/
def distinctSpecialists (s : Settings) : Except SettingsError (List Specialist) :=
  s.specialists.foldlM (addSpecialist s.coordinator.role) []

def resolve (o : Overrides) (e : Environment) (s : Settings) (folder : String) :
    Except SettingsError Configuration := do
  let apiKey ← apiKey? o e s
  if s.agents.maxIterations = 0 then
    throw (.invalid "agent.max_iterations" "must be at least 1")
  let specialists ← distinctSpecialists s
  return {
    apiKey := apiKey
    model := (o.model <|> e.model <|> s.service.model).getD defaultModel
    baseUrl := (e.baseUrl <|> s.service.baseUrl).getD defaultBaseUrl
    folder := folder
    agents := s.agents
    coordinator := s.coordinator
    specialists := specialists
    memory := {
      backend := o.backend.getD s.memory.backend
      shared := s.memory.shared
      folder := s.memory.folder.getD (pathIn folder "memory") } }

/-- The configuration with the text of the settings file, if there is one. A file that cannot be
read stands for the defaults. -/
def load (o : Overrides) (e : Environment) (toml : Option String) (folder : String) :
    Except SettingsError Configuration :=
  resolve o e ((toml.bind Settings.ofText?).getD {}) folder

def encode (c : Configuration) : Data :=
  .record [("api_key", .str c.apiKey), ("model", .str c.model), ("api_base_url", .str c.baseUrl),
    ("config_dir", .str c.folder), ("agent", c.agents.encode),
    ("coordinator", c.coordinator.encode),
    ("specialists", .list (c.specialists.map Specialist.encode)),
    ("memory", .record [("backend", .str c.memory.backend.name), ("shared", .bool c.memory.shared),
      ("dir", .str c.memory.folder)])]

end Configuration

end Concierge
