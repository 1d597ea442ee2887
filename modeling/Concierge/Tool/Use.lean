import Concierge.Agent.Turn
import Concierge.Handoff.Arguments
import Concierge.World.Memory
import Concierge.World.Registry

/-!
# Using a tool

The signalling tools only check their arguments. The memory tools work on the facts of the chat that
the caller is in. Delegation runs the registry's agent of a role within the caller's turn; an agent
that is already running, because the delegation came from itself, does not answer.
-/

namespace Concierge.Tool

variable {σ : Type}

def requiredText (tool key : String) (args : Value) : Except ToolError String :=
  match Handoff.textArgument? args key with
  | some s => .ok s
  | none => .error (.invalidInput tool ("Missing required parameter: " ++ key))

def requiredValue (tool key : String) (args : Value) : Except ToolError Value :=
  match Handoff.valueArgument? args key with
  | some v => .ok v
  | none => .error (.invalidInput tool ("Missing required parameter: " ++ key))

def chat? (context : ToolContext) : Option ChatId := context.chat.bind ChatId.ofText?

def noMemory : ToolOutput := .error "Memory is not available for this conversation"

def storeError (e : MemoryError) : ToolError := .failed e.message

def rememberFact (out : Outside σ) (store : StoreId) (args : Value) (context : ToolContext) :
    Run σ (Except ToolError ToolOutput) :=
  match chat? context with
  | none => pure (.ok noMemory)
  | some chat =>
    match requiredText rememberName "key" args with
    | .error e => pure (.error e)
    | .ok key =>
      match requiredValue rememberName "value" args with
      | .error e => pure (.error e)
      | .ok value => do
        match ← Run.access out store chat (.setFact key value) with
        | .ok () => return .ok (.text ("Remembered '" ++ key ++ "'"))
        | .error e => return .error (storeError e)

def lookUpKey? (args : Value) : Option String :=
  match (args.member? "key").bind Value.text? with
  | some key => if key.isEmpty then none else some key
  | none => none

def lookUpFact (out : Outside σ) (store : StoreId) (args : Value) (context : ToolContext) :
    Run σ (Except ToolError ToolOutput) :=
  match chat? context with
  | none => pure (.ok noMemory)
  | some chat =>
    match lookUpKey? args with
    | some key => do
      match ← Run.access out store chat (.fact? key) with
      | .ok (some v) => return .ok (.value v)
      | .ok none => return .ok (.text ("No fact stored under '" ++ key ++ "'"))
      | .error e => return .error (storeError e)
    | none => do
      match ← Run.access out store chat .allFacts with
      | .ok facts => return .ok (.value (.ofMembers facts))
      | .error e => return .error (storeError e)

def delegated (role answer : String) : ToolOutput :=
  if Text.blank answer then
    .error ("Specialist '" ++ role ++ "' completed but produced no text output")
  else .text answer

def delegateTask (out : Outside σ) (carryOut : Registered → String → Run σ Turn) (args : Value) :
    Run σ (Except ToolError ToolOutput) :=
  match requiredText delegateName "specialist_role" args with
  | .error e => pure (.error e)
  | .ok role =>
    match requiredText delegateName "task_description" args with
    | .error e => pure (.error e)
    | .ok task => do
      match ← Run.modifyGet (World.registeredAgent out role) with
      | .error e => return .ok (.error e.message)
      | .ok agent =>
        let turn ← carryOut agent task
        return .ok (delegated role turn.outcome.text)

def useWith (out : Outside σ) (carryOut : Registered → String → Run σ Turn) (t : Tool)
    (args : Value) (context : ToolContext) : Run σ (Except ToolError ToolOutput) :=
  match t with
  | outside key _ => do Run.await (← Run.ask (out.callTool key args context))
  | requestHandoff directory => do
    let w ← Run.get
    return .ok (Handoff.request (Agent.listedRoles out w directory) args)
  | endHandoff => pure (.ok (Handoff.finish args))
  | delegate => delegateTask out carryOut args
  | remember store => rememberFact out store args context
  | lookUp store => lookUpFact out store args context

def noteTask (role : String) (serial : Nat) (task : String) : Run σ Unit :=
  .modify fun w => { w with registry := w.registry.setTask role serial task }

/-- Use a tool while the agents in `busy` are running. `depth` bounds how many more agents can
start to run within each other. -/
def useAt (out : Outside σ) :
    (depth : Nat) → (busy : List Nat) → Tool → Value → ToolContext →
      Run σ (Except ToolError ToolOutput)
  | 0, _, t, args, context => useWith out (fun _ _ => Run.stall) t args context
  | depth + 1, busy, t, args, context =>
    useWith out (fun agent task => do
      if agent.serial ∈ busy then Run.stall
      else
        noteTask agent.agent.role agent.serial task
        agent.agent.carryOut out (useAt out depth (agent.serial :: busy)) task)
      t args context

/-- Use a tool. There are no more agents to run within each other than there are specialists. -/
def use (out : Outside σ) (busy : List Nat) (t : Tool) (args : Value) (context : ToolContext) :
    Run σ (Except ToolError ToolOutput) := do
  let w ← Run.get
  useAt out w.registry.definitions.length busy t args context

end Concierge.Tool
