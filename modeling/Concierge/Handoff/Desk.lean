import Concierge.Chat.Manager

/-!
# Handing conversations over

In a session either the coordinator or a specialist talks to the user. The coordinator asks for a
handoff and the specialist ends it, each with a signal; the message that brought the signal about
then goes to the agent that took over, so that it has one visible answer. What a specialist hands
back waits until the coordinator is next addressed and goes in front of that message as a note.
-/

namespace Concierge

inductive Speaker where
  | coordinator
  | specialist (role : String)
deriving DecidableEq, Repr

namespace Speaker

def role? : Speaker → Option String
  | coordinator => none
  | specialist role => some role

def text : Speaker → String
  | coordinator => "coordinator"
  | specialist role => "specialist '" ++ role ++ "'"

end Speaker

structure Pending where
  role : String
  result : Handback

def Pending.note (p : Pending) : String :=
  "[System note: the '" ++ p.role ++ "' specialist ended its sub-conversation with status '" ++
    p.result.status ++ "'. Result: " ++ Json.compact p.result.finalResult.data ++ "." ++
    (match p.result.message with
      | some m => " Message for you: " ++ m ++ "."
      | none => "") ++
    " Continue with the user's message below.]"

/-- A session of a desk. The specialists are listed by role in ascending order. -/
structure DeskSession where
  coordinator : Chat
  speaker : Speaker := .coordinator
  specialists : List (String × Chat) := []
  pending : Option Pending := none
  memory : Adapters
  /-- The generation of the registry that the specialists were made from. -/
  generation : Nat

structure Desk where
  config : ChatConfig
  provider : Provider
  tools : Toolbox := {}
  memory : MemoryMode := .none
  sessions : Table String DeskSession := []

namespace Desk

def maxHops : Nat := 4

def signalErrorText : String :=
  "Sorry, something went wrong while routing your request. Could you rephrase it?"

def handoffLimitText : String :=
  "Sorry, I couldn't find the right agent to answer that. Could you rephrase your request?"

variable {σ : Type}

def make (out : Outside σ) (config : ChatConfig) (memory : MemoryMode) :
    Run σ (Except RegistryError Desk) := do
  let w ← Run.get
  match ← Run.modifyGet (World.provider out (config.model.getD w.registry.defaultModel)) with
  | .ok p => return .ok { config := config, provider := p, memory := memory }
  | .error e => return .error e

def newSession (out : Outside σ) (d : Desk) : Run σ DeskSession := do
  let memory ← d.memory.forNewSession
  let tools := d.tools.register (.requestHandoff .registry)
  let coordinator ← Chat.build out d.config d.provider tools memory true
  let w ← Run.get
  return { coordinator := coordinator, memory := memory, generation := w.registry.generation }

def session (out : Outside σ) (d : Desk) (id : String) : Run σ (DeskSession × Desk) :=
  match d.sessions.get? id with
  | some s => pure (s, d)
  | none => do
    let s ← d.newSession out
    return (s, { d with sessions := d.sessions.put id s })

end Desk

namespace DeskSession

variable {σ : Type}

/-! ## Specialists -/

def specialistConfig (limits : Limits) (s : Specialist) : ChatConfig where
  role := s.role
  objective := s.objective
  context := s.context
  model := s.model
  search := s.search
  limits := limits

def buildSpecialist (out : Outside σ) (role : String) (memory : Adapters) :
    Run σ (Except RegistryError Chat) := do
  let w ← Run.get
  match w.registry.validate role with
  | .error e => return .error e
  | .ok s =>
    match ← Run.modifyGet (World.provider out (w.registry.modelOf s)) with
    | .error e => return .error e
    | .ok p =>
      let tools := (w.registry.toolsFor role).register .endHandoff
      let chat ← Chat.build out (specialistConfig w.registry.limits s) p tools memory false
      return .ok chat

/-- Forget the specialists if the registry has changed. The one that talks to the user is made
anew; if that fails the coordinator takes over. -/
def refresh (out : Outside σ) (s : DeskSession) : Run σ DeskSession := do
  let w ← Run.get
  if s.generation = w.registry.generation then return s
  else
    let s := { s with generation := w.registry.generation, specialists := [] }
    match s.speaker with
    | .coordinator => return s
    | .specialist role =>
      match ← buildSpecialist out role s.memory with
      | .ok chat => return { s with specialists := [(role, chat)] }
      | .error _ => return { s with speaker := .coordinator }

def contextText (context : String) : String := "Handoff context from the coordinator: " ++ context

def addContext (context : String) (chat : Chat) : Chat :=
  { chat with agent := chat.agent.appendContext (contextText context) }

def startHandoff (out : Outside σ) (s : DeskSession) (role context : String) :
    Run σ (Except RegistryError Unit × DeskSession) := do
  match lookupName role s.specialists with
  | some chat =>
    return (.ok (), { s with
      specialists := insertSorted role (addContext context chat) s.specialists
      speaker := .specialist role })
  | none =>
    match ← buildSpecialist out role s.memory with
    | .error e => return (.error e, s)
    | .ok chat =>
      return (.ok (), { s with
        specialists := insertSorted role (addContext context chat) s.specialists
        speaker := .specialist role })

/-! ## Routing a message -/

structure Dispatch where
  receiver : Speaker
  prompt : String
  /-- What was handed back before and told to the coordinator with this message. -/
  delivered : Option Pending
  turn : Turn
  /-- What a specialist handed back in this turn. -/
  accepted : Option Pending := none

def coordinatorPrompt (pending : Option Pending) (message : String) : String :=
  match pending with
  | some p => p.note ++ "\n\n" ++ message
  | none => message

/-- Give the message to the coordinator. What was handed back is told now and never again. -/
def askCoordinator (out : Outside σ) (s : DeskSession) (message : String) :
    Run σ (Dispatch × DeskSession) := do
  let prompt := coordinatorPrompt s.pending message
  let (turn, chat) ← s.coordinator.turn out prompt
  return (⟨.coordinator, prompt, s.pending, turn, none⟩,
    { s with coordinator := chat, pending := none, speaker := .coordinator })

def dispatch (out : Outside σ) (s : DeskSession) (message : String) :
    Run σ (Dispatch × DeskSession) :=
  match s.speaker with
  | .coordinator => s.askCoordinator out message
  | .specialist role =>
    match lookupName role s.specialists with
    | none => s.askCoordinator out message
    | some chat => do
      let (turn, chat) ← chat.turn out message
      return (⟨.specialist role, message, none, turn, none⟩,
        { s with specialists := insertSorted role chat s.specialists })

def orIfBlank (text other : String) : String := if Text.blank text then other else text

structure Routed where
  dispatches : List Dispatch
  reply : String

/-- What becomes of a session after a turn: the message goes on, or this is the reply. -/
inductive Next where
  | goOn
  | reply (text : String)

def act (out : Outside σ) (s : DeskSession) (d : Dispatch) :
    Run σ (Next × Dispatch × DeskSession) :=
  let outcome := d.turn.outcome
  let giveUp := Next.reply (orIfBlank outcome.text Desk.signalErrorText)
  match outcome.signal with
  | none => pure (.reply outcome.text, d, s)
  | some (.malformed ..) => pure (giveUp, d, s)
  | some (.request role context) => do
    match ← s.startHandoff out role context with
    | (.ok (), s) => return (.goOn, d, s)
    | (.error _, s) => return (giveUp, d, s)
  | some (.handback result) =>
    match s.speaker with
    | .coordinator => pure (giveUp, d, s)
    | .specialist role =>
      let p : Pending := ⟨role, result⟩
      pure (.goOn, { d with accepted := some p },
        { s with speaker := .coordinator, pending := some p })

/-- Give the message to up to `hops` agents, until one answers. -/
def route (out : Outside σ) (message : String) :
    (hops : Nat) → DeskSession → Run σ (Routed × DeskSession)
  | 0, s => pure (⟨[], Desk.handoffLimitText⟩, { s with speaker := .coordinator })
  | hops + 1, s => do
    let (d, s) ← s.dispatch out message
    let (next, d, s) ← s.act out d
    match next with
    | .reply text => return (⟨[d], text⟩, s)
    | .goOn =>
      let (r, s) ← route out message hops s
      return (⟨d :: r.dispatches, r.reply⟩, s)

end DeskSession

namespace Desk

variable {σ : Type}

def route (out : Outside σ) (d : Desk) (id message : String) :
    Run σ (DeskSession.Routed × Desk) := do
  let (s, d) ← d.session out id
  let s ← s.refresh out
  let (r, s) ← s.route out message maxHops
  return (r, { d with sessions := d.sessions.put id s })

def process (out : Outside σ) (d : Desk) (id message : String) : Run σ (String × Desk) := do
  let (r, d) ← d.route out id message
  return (r.reply, d)

def endSession (out : Outside σ) (d : Desk) (id : String) : Run σ (Bool × Desk) :=
  match d.sessions.get? id with
  | none => pure (false, d)
  | some s => do
    d.memory.closeSession out s.memory
    return (true, { d with sessions := d.sessions.erase id })

def shutdown (out : Outside σ) (d : Desk) : Run σ Desk := do
  d.memory.close out (d.sessions.map (·.2.memory))
  return { d with sessions := [] }

end Desk

end Concierge
