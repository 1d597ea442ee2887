import Concierge.Tool.Use

/-!
# Chats

A chat is an agent with the messages exchanged so far and, if it has stores, a chat id under which
they keep its memory. A turn that hands the conversation to another agent leaves no messages.
-/

namespace Concierge

open Memory

variable {σ : Type}

structure ChatConfig where
  role : String := "assistant"
  objective : String := "Help the user"
  context : String := ""
  model : Option String := none
  search : Bool := false
  thinking : Bool := false
  delegation : Bool := false
  memoryTools : Bool := false
  limits : Limits := {}

structure Chat where
  agent : Agent
  history : List Message := []
  memory : Adapters := {}
  id : Option ChatId := none

namespace Chat

def make (out : Outside σ) (agent : Agent) (memory : Adapters) : Run σ Chat := do
  if memory.isPersistent then
    let id ← Run.ask out.drawChatId
    return { agent := agent, memory := memory, id := some id }
  else return { agent := agent, memory := memory }

def register (c : Chat) (t : Tool) : Chat :=
  { c with agent := { c.agent with tools := c.agent.tools.register t } }

def withDelegation (roles : List String) (c : Chat) : Chat :=
  if roles.isEmpty then c else c.register .delegate

def withMemoryTools (c : Chat) : Chat :=
  match c.memory.facts with
  | some store => (c.register (.remember store)).register (.lookUp store)
  | none => c

/-- The chat of a configuration; `registry` says whether there is a registry to delegate to. -/
def build (out : Outside σ) (config : ChatConfig) (provider : Provider) (tools : Toolbox)
    (memory : Adapters) (registry : Bool) : Run σ Chat := do
  let agent : Agent := {
    role := config.role
    objective := config.objective
    context := config.context
    provider := provider
    tools := tools
    search := config.search
    limits := config.limits
    thinking := config.thinking }
  let chat ← make out agent memory
  let w ← Run.get
  let chat := if config.delegation && registry then chat.withDelegation w.registry.roles else chat
  return if config.memoryTools then chat.withMemoryTools else chat

/-! ## Turns -/

def contents (c : Chat) : List Content := c.history.map Message.content

def toolContext (c : Chat) : ToolContext := ⟨c.agent.role, c.id.map ChatId.text⟩

def handsOff (o : TurnOutcome) : Bool :=
  match o.signal with
  | some (.request ..) | some (.handback _) => true
  | _ => false

def messagesOf (message : String) (o : TurnOutcome) : List Message :=
  if handsOff o then []
  else .user message :: if o.text.isEmpty then [] else [.model o.text]

/-- Keep a message, in the store as well if there is one. A store that fails is passed over. -/
def record (out : Outside σ) (c : Chat) (m : Message) : Run σ Chat := do
  match c.memory.conversation, c.id with
  | some store, some id =>
    let _ ← Run.access out store id (.append m)
    return { c with history := c.history ++ [m] }
  | _, _ => return { c with history := c.history ++ [m] }

def recordAll (out : Outside σ) (c : Chat) : List Message → Run σ Chat
  | [] => pure c
  | m :: ms => do recordAll out (← c.record out m) ms

def turn (out : Outside σ) (c : Chat) (message : String) : Run σ (Turn × Chat) := do
  let turn ← c.agent.runTurn out (Tool.use out []) c.contents [.text message] c.toolContext
  let c ← c.recordAll out (messagesOf message turn.outcome)
  return (turn, c)

/-! ## Memory -/

/-- Take up the chat of an id. False if there is no memory or the messages cannot be read. -/
def resume (out : Outside σ) (c : Chat) (id : ChatId) : Run σ (Bool × Chat) :=
  if c.memory.isPersistent then
    let c := { c with id := some id }
    match c.memory.conversation with
    | none => pure (true, c)
    | some store => do
      match ← Run.access out store id .history with
      | .ok history => return (true, { c with history := history })
      | .error _ => return (false, { c with history := [] })
  else pure (false, c)

/-- Perform an operation on a store of this chat; none if there is no store or it fails. -/
def attempt {α : Type} (out : Outside σ) (c : Chat) (store : Option StoreId) (op : Operation α) :
    Run σ (Option α) :=
  match store, c.id with
  | some store, some id => do
    match ← Run.access out store id op with
    | .ok a => return some a
    | .error _ => return none
  | _, _ => pure none

/-- Forget the messages. True if the store has forgotten them too. -/
def clearHistory (out : Outside σ) (c : Chat) : Run σ (Bool × Chat) := do
  let c := { c with history := [] }
  return ((← c.attempt out c.memory.conversation .clear).isSome, c)

def setFact (out : Outside σ) (c : Chat) (key : String) (v : Value) : Run σ Bool := do
  return (← c.attempt out c.memory.facts (.setFact key v)).isSome

def fact? (out : Outside σ) (c : Chat) (key : String) : Run σ (Option Value) := do
  return (← c.attempt out c.memory.facts (.fact? key)).join

def allFacts (out : Outside σ) (c : Chat) : Run σ Facts := do
  return (← c.attempt out c.memory.facts .allFacts).getD []

def addSummary (out : Outside σ) (c : Chat) (content : String) : Run σ Bool :=
  match c.memory.summaries, c.id with
  | some store, some id => do
    let time ← Run.ask out.now
    match ← Run.access out store id (.addSummary ⟨content, time⟩) with
    | .ok () => return true
    | .error _ => return false
  | _, _ => pure false

def latestSummary? (out : Outside σ) (c : Chat) : Run σ (Option String) := do
  return (← c.attempt out c.memory.summaries .latest?).join

def summaries (out : Outside σ) (c : Chat) (limit : Option Nat) : Run σ (List Summary) := do
  return (← c.attempt out c.memory.summaries (.summaries limit)).getD []

end Chat

end Concierge
