import Concierge.CommandLine
import Concierge.Reception
import Concierge.Text.Blank

/-!
# The console

The console answers one message, or holds a conversation line by line. Answers go to the standard
output; prompts, the answers to commands and complaints go beside it.
-/

namespace Concierge

variable {σ : Type}

inductive Written where
  | answer (text : String)
  | aside (text : String)
deriving DecidableEq, Repr

/-! ## Complaints -/

/-- What the program was about to do when it failed, and the causes, each with the one behind it. -/
structure Complaint where
  about : String
  causes : List String
deriving DecidableEq, Repr

namespace Complaint

def indented (first rest text : String) : String :=
  first ++ ("\n" ++ rest).intercalate (text.splitOn "\n")

def causeTexts (causes : List String) : List String :=
  match causes with
  | [cause] => [indented "    " "    " cause]
  | causes => causes.zipIdx.map fun (cause, n) =>
      let number := toString n
      indented ("".pushn ' ' (5 - number.length) ++ number ++ ": ") "       " cause

def text (c : Complaint) : String :=
  "Error: " ++ c.about ++
    (if c.causes.isEmpty then "" else "\n\nCaused by:\n" ++ "\n".intercalate (causeTexts c.causes)) ++
    "\n"

end Complaint

def RegistryError.causes (e : RegistryError) : List String :=
  match e with
  | .unknownRole .. => [e.message]
  | .noClient _ cause => [e.message, cause.message]

/-! ## Opening the reception -/

namespace Configuration

def limits (c : Configuration) : Limits :=
  ⟨c.agents.maxIterations, some (c.agents.modelTimeout * 1000), some (c.agents.toolTimeout * 1000)⟩

def registry (c : Configuration) : Registry :=
  ({ defaultModel := c.model
     limits := c.limits
     backend := .gemini (Gemini.Client.make c.apiKey c.baseUrl none {}) } : Registry).configure
    c.specialists

/-- The agent that talks to the user first. It may delegate if there are specialists and remember if
there is memory. -/
def chatConfig (c : Configuration) : ChatConfig where
  role := c.coordinator.role
  objective := c.coordinator.objective
  context := c.coordinator.context
  model := some c.model
  search := c.agents.search
  thinking := c.agents.thinking
  delegation := !c.specialists.isEmpty
  memoryTools := c.memory.backend ≠ .none
  limits := c.limits

def onlyKind (k : StoreKind) : StorePlan := ⟨some k, some k, some k⟩

/-- The memory of the sessions; a shared one is opened at once. -/
def openMemory (m : MemoryPlace) : Run σ MemoryMode :=
  let mode (plan : StorePlan) : Run σ MemoryMode :=
    if m.shared then do return .shared (← Run.modifyGet (World.openAll plan))
    else pure (.perSession plan)
  match m.backend with
  | .none => pure .none
  | .memory => mode (onlyKind .memory)
  | .file => mode (onlyKind .file)

def openReception (out : Outside σ) (c : Configuration) (single : Bool) :
    Run σ (Except Complaint Reception) := do
  Run.modify fun w => { w with registry := c.registry }
  let memory ← openMemory c.memory
  if single || c.specialists.isEmpty then
    match ← Run.modifyGet (World.provider out c.model) with
    | .error e => return .error ⟨"Failed to create model provider", e.causes⟩
    | .ok p =>
      return .ok (.single { config := c.chatConfig, provider := p, registry := true, memory := memory })
  else
    match ← Desk.make out c.chatConfig memory with
    | .error e => return .error ⟨"Failed to create coordinator", e.causes⟩
    | .ok desk => return .ok (.desk desk)

end Configuration

/-! ## Conversing -/

inductive Command where
  | say (message : String)
  | leave
  | endSession
  | status
  | help
  | unknown (input : String)
deriving DecidableEq, Repr

/-- The command of a line; none if it is blank. Blanks around the line do not count. -/
def Command.ofLine? (line : String) : Option Command :=
  let input := Text.trim line
  if input.isEmpty then none
  else if input = "/quit" ∨ input = "/exit" then some .leave
  else if input = "/end" then some .endSession
  else if input = "/status" then some .status
  else if input = "/help" then some .help
  else if input.toList.head? = some '/' then some (.unknown input)
  else some (.say input)

structure Console where
  reception : Reception
  session : String

namespace Console

def version : String := "0.1.0"

def prompt : String := "> "

def banner (c : Configuration) (session : String) : String :=
  let specialists :=
    if c.specialists.isEmpty then "none"
    else ", ".intercalate (c.specialists.map Specialist.role)
  "switchboard v" ++ version ++ " (model: " ++ c.model ++ ", specialists: " ++ specialists ++
    ", session: " ++ session ++ ")\n" ++
    "Type your message. /help for commands, Ctrl+D to exit.\n\n"

def commandHelp : String :=
  "Available commands:\n" ++
    "  /help    Show this help\n" ++
    "  /status  Show which agent is answering\n" ++
    "  /end     End the session and forget its in-process state\n" ++
    "  /exit    Exit\n"

def carryOut (out : Outside σ) (c : Console) : Command → Run σ (List Written × Option Console)
  | .leave => pure ([], none)
  | .help => pure ([.aside commandHelp], some c)
  | .unknown input =>
    pure ([.aside ("Unknown command: " ++ input ++ ". Type /help for available commands.\n")], some c)
  | .status => do
    let (line, reception) ← c.reception.status out c.session
    return ([.aside (line ++ "\n")], some { c with reception := reception })
  | .endSession => do
    let (ended, reception) ← c.reception.endSession out c.session
    let line :=
      if ended then "Session '" ++ c.session ++ "' ended. The next message starts fresh.\n"
      else "Session '" ++ c.session ++ "' has not started yet.\n"
    return ([.aside line], some { c with reception := reception })
  | .say message => do
    let (reply, reception) ← c.reception.process out c.session message
    return ([.answer (reply ++ "\n"), .answer "\n"], some { c with reception := reception })

def respond (out : Outside σ) (c : Console) (line : String) :
    Run σ (List Written × Option Console) :=
  match Command.ofLine? line with
  | none => pure ([], some c)
  | some command => c.carryOut out command

/-- Everything that is written in the course of some lines. The end of the lines is the end of the
conversation. -/
def converse (out : Outside σ) (c : Console) : List String → Run σ (List Written × Console)
  | [] => pure ([.aside prompt, .aside "\n"], c)
  | line :: lines => do
    let (written, next) ← c.respond out line
    match next with
    | none => return (.aside prompt :: written, c)
    | some c =>
      let (more, c) ← converse out c lines
      return (.aside prompt :: written ++ more, c)

end Console

/-! ## The program -/

structure Launch where
  words : List String
  environment : Environment
  toml : Option String
  /-- The folder of the settings file. -/
  folder : String

/-- How the program goes on: it is done with a status, or holds a conversation. -/
inductive Launched where
  | done (written : List Written) (status : Nat)
  | talking (written : List Written) (c : Console)

namespace Launch

def usage : String := "Usage: switchboard [OPTIONS]\n"

def help : String :=
  "Multi-agent chat router for Gemini models\n\n" ++ usage ++ "\n" ++
    "Options:\n" ++
    "  -p, --print <PRINT>      Send a single prompt and print the response (non-interactive)\n" ++
    "      --session <SESSION>  Session id to talk in [default: cli]\n" ++
    "      --model <MODEL>      Model to use\n" ++
    "      --api-key <API_KEY>  API key (overrides GEMINI_API_KEY)\n" ++
    "      --memory <MEMORY>    Memory backend: none, memory or file\n" ++
    "      --verbose            Enable verbose/debug logging\n" ++
    "      --no-routing         Talk to a single agent without sub-conversation routing\n" ++
    "  -h, --help               Print help\n" ++
    "  -V, --version            Print version\n"

def defaultSession : String := "cli"

def configuration (l : Launch) (o : Options) : Except SettingsError Configuration :=
  Configuration.load o.overrides l.environment l.toml l.folder

def memoryFolder? (l : Launch) : Option String :=
  match Invocation.ofWords l.words with
  | .run o =>
    match l.configuration o with
    | .ok config => if config.memory.backend = .file then some config.memory.folder else none
    | .error _ => none
  | _ => none

def start (out : Outside σ) (l : Launch) (o : Options) : Run σ Launched := do
  let complain (c : Complaint) : Launched := .done [.aside c.text] 1
  match l.configuration o with
  | .error e => return complain ⟨"Failed to load configuration", [e.message]⟩
  | .ok config =>
    match ← config.openReception out o.single with
    | .error c => return complain c
    | .ok reception =>
      let session := o.session.getD defaultSession
      match o.message with
      | none => return .talking [.aside (Console.banner config session)] ⟨reception, session⟩
      | some message =>
        let (reply, reception) ← reception.process out session message
        let _ ← reception.shutdown out
        return .done [.answer (reply ++ "\n")] 0

def run (out : Outside σ) (l : Launch) : Run σ Launched :=
  match Invocation.ofWords l.words with
  | .run o => l.start out o
  | .help => pure (.done [.answer help] 0)
  | .version => pure (.done [.answer ("switchboard " ++ Console.version ++ "\n")] 0)
  | .misuse reason =>
    pure (.done [.aside ("error: " ++ reason ++ "\n\n" ++ usage ++
      "\nFor more information, try '--help'.\n")] 2)

def runOn (out : Outside σ) (l : Launch) (input : String) : Run σ (List Written × Nat) := do
  match ← l.run out with
  | .done written status => return (written, status)
  | .talking written c =>
    let (more, c) ← c.converse out ((Text.lines input.toList).map String.ofList)
    let _ ← c.reception.shutdown out
    return (written ++ more, 0)

end Launch

end Concierge
