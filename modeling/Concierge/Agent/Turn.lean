import Concierge.Agent.Basic
import Concierge.Dialogue.Answer
import Concierge.Gemini.Generate
import Concierge.Tool.Error

/-!
# A turn of an agent

In a turn the model is asked until it answers without a function call. Each call is carried out and
its result is added to the conversation; a call whose tool signals ends the turn. What happened is
kept as a list of exchanges, one for each request.
-/

namespace Concierge

variable {σ : Type}

structure TurnOutcome where
  text : String
  signal : Option Signal := none

/-- One request of a turn, how it was answered, and what the tool gave that was called. -/
structure Exchange where
  request : Request
  answer : Except ModelError Response
  output : Option ToolOutput := none

structure Turn where
  exchanges : List Exchange
  outcome : TurnOutcome

namespace Turn

def limitText : String :=
  "I was unable to complete the task within the allowed number of steps."

def failureText (e : ModelError) : String := "Error communicating with the model: " ++ e.message

def after (e : Exchange) (t : Turn) : Turn := { t with exchanges := e :: t.exchanges }

def withCall (r : Request) (text : String) (call : FunctionCall) : List Content :=
  r.contents ++ [.model ((if text.isEmpty then [] else [.text text]) ++ [.call call])]

def resultContent (call : FunctionCall) (content : String) : Content :=
  .user [.result ⟨call.name, .ofMembers [("result", .str content)]⟩]

/-- The request after a call: everything so far is history. -/
def nextRequest (r : Request) (text : String) (call : FunctionCall) (content : String) : Request :=
  { r with history := withCall r text call ++ [resultContent call content], prompt := [] }

def finalText (thinking : Bool) (text : String) : String :=
  if thinking then ((Answer.ofReply? text).map Answer.final).getD text else text

def loop (model : Request → Run σ (Except ModelError Response))
    (tool : FunctionCall → Run σ ToolOutput) (thinking : Bool) :
    (calls : Nat) → Request → Run σ Turn
  | 0, _ => pure ⟨[], ⟨limitText, none⟩⟩
  | calls + 1, request => do
    match ← model request with
    | .error e => return ⟨[⟨request, .error e, none⟩], ⟨failureText e, none⟩⟩
    | .ok response =>
      match response.call with
      | none =>
        return ⟨[⟨request, .ok response, none⟩], ⟨finalText thinking response.text, none⟩⟩
      | some call =>
        let output ← tool call
        let exchange : Exchange := ⟨request, .ok response, some output⟩
        match output.signal with
        | some signal => return ⟨[exchange], ⟨response.text, some signal⟩⟩
        | none =>
          let turn ← loop model tool thinking calls
            (nextRequest request response.text call output.content)
          return turn.after exchange

end Turn

def Toolbox.execute (use : Tool → Value → ToolContext → Run σ (Except ToolError ToolOutput))
    (b : Toolbox) (name : String) (args : Value) (context : ToolContext) :
    Run σ (Except ToolError ToolOutput) :=
  match b.get? name with
  | none => pure (.error (.unknown name))
  | some tool => use tool args context

namespace Agent

def listedRoles (out : Outside σ) (w : World σ) : Directory → List String
  | .registry => w.registry.roles
  | .listed roles => roles
  | .posted => out.postedRoles w.outside

def askModel (out : Outside σ) (a : Agent) (r : Request) : Run σ (Except ModelError Response) := do
  let answer : Run σ (Except ModelError Response) :=
    match a.provider.backend with
    | .outside => do Run.await (← Run.ask (out.generate a.provider r))
    | .gemini client => client.generate out a.provider.model r
  return (← Run.within a.limits.modelTimeout answer).getD (.error .timeout)

def shown (call : FunctionCall) : Except ToolError ToolOutput → ToolOutput
  | .ok output => output
  | .error (.unknown name) => .error ("Unknown tool: " ++ name)
  | .error e => .error ("Error executing tool '" ++ call.name ++ "': " ++ e.message)

def callArgs (call : FunctionCall) : Value := if call.args.isNull then .emptyRecord else call.args

def callTool (use : Tool → Value → ToolContext → Run σ (Except ToolError ToolOutput)) (a : Agent)
    (context : ToolContext) (call : FunctionCall) : Run σ ToolOutput := do
  let result ← Run.within a.limits.toolTimeout
    (a.tools.execute use call.name (callArgs call) context)
  return shown call (result.getD (.error (.timeout (a.limits.toolTimeout.getD 0))))

def firstRequest (out : Outside σ) (w : World σ) (a : Agent) (history : List Content)
    (prompt : List Part) : Request :=
  ⟨some a.instructions, history, prompt, a.offer (listedRoles out w)⟩

def runTurn (out : Outside σ)
    (use : Tool → Value → ToolContext → Run σ (Except ToolError ToolOutput)) (a : Agent)
    (history : List Content) (prompt : List Part) (context : ToolContext) : Run σ Turn := do
  let w ← Run.get
  Turn.loop (a.askModel out) (a.callTool use context) a.thinking a.limits.calls
    (a.firstRequest out w history prompt)

def carryOut (out : Outside σ)
    (use : Tool → Value → ToolContext → Run σ (Except ToolError ToolOutput)) (a : Agent)
    (task : String) : Run σ Turn :=
  a.runTurn out use [] [.text task] ⟨a.role, none⟩

end Agent

end Concierge
