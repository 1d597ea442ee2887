import Concierge.Agent.Progress
import Concierge.Proofs.Rounds

/-!
# How a turn ends

A turn ends with the first exchange that leaves nothing to go on with: the model fails, answers without
a call, or calls a tool that signals. If there is none the turn has made as many calls of the model as it
may. All that it does beside is to carry out the calls in the answers, one after the other
(`turn_ends_at_first_stop`).
-/

namespace Concierge

open Run

variable {σ : Type}

/-- The exchange leaves nothing to go on with, and this is the outcome of its turn. -/
inductive Exchange.Ends (thinking : Bool) : Exchange → TurnOutcome → Prop
  | failed {r e output} :
      Ends thinking ⟨r, .error e, output⟩ ⟨"Error communicating with the model: " ++ e.message, none⟩
  | answered {r text output final} (finalized : Turn.Finalized thinking text final) :
      Ends thinking ⟨r, .ok ⟨text, none⟩, output⟩ ⟨final, none⟩
  | signalled {r text call output signal} (signals : output.signal = some signal) :
      Ends thinking ⟨r, .ok ⟨text, some call⟩, some output⟩ ⟨text, some signal⟩

theorem Exchange.Ends.unique {thinking : Bool} {e : Exchange} {o o' : TurnOutcome} (h : e.Ends thinking o)
    (h' : e.Ends thinking o') : o = o' := by
  cases h with
  | failed => cases h'; rfl
  | answered finalized =>
    cases h' with
    | answered finalized' => rw [Turn.finalized_iff.mp finalized, Turn.finalized_iff.mp finalized']
  | signalled signals =>
    cases h' with
    | signalled signals' =>
      cases signals.symm.trans signals'
      rfl

def Exchange.called (e : Exchange) : Option (String × Value) :=
  match e.answer with
  | .ok ⟨_, some call⟩ => some (call.name, if call.args.isNull then .emptyRecord else call.args)
  | _ => none

namespace Turn

/-! ## Where the rounds end -/

section
variable {model : Request → Run σ (Except ModelError Response)} {tool : FunctionCall → Run σ ToolOutput}
  {deadline : Option Nat} {thinking : Bool} {calls : Nat} {r r₁ : Request} {w w₁ : World σ}
  {es : List Exchange} {e : Exchange} {o : TurnOutcome} {t : Turn}

theorem Rounds.goes_on (h : Rounds model tool deadline r w es r₁ w₁) (thinking : Bool) :
    ∀ e ∈ es, ∀ o, ¬ e.Ends thinking o := by
  intro e he o ends
  obtain ⟨text, call, output, _, _, answer, given, plain, -⟩ := h.called e he
  cases ends with
  | failed => cases answer
  | answered => cases answer
  | signalled signals =>
    cases given
    rw [plain] at signals
    cases signals

theorem Last.ends (h : Last model tool deadline thinking r w e o w₁) : e.Ends thinking o := by
  cases h with
  | failed _ => exact .failed
  | answered _ finalized => exact .answered finalized
  | signalled _ _ signals => exact .signalled signals

end

/-! ## The progress of a turn -/

section
variable (model : Request → Run σ (Except ModelError Response)) (tool : FunctionCall → Run σ ToolOutput)
  (thinking : Bool)

end

end Turn

/-! ## What a turn does -/

/-- Something that happens in a turn: the model answers a request, or a tool is used under its name. -/
inductive Deed where
  | asked (r : Request) (answer : Except ModelError Response)
  | used (name : String) (args : Value) (output : ToolOutput)

def Exchange.deeds (e : Exchange) : List Deed :=
  .asked e.request e.answer ::
    match e.called, e.output with
    | some (name, args), some output => [.used name args output]
    | _, _ => []

namespace Agent

def ask (out : Outside σ) (a : Agent) (r : Request) : Run σ (Except ModelError Response) :=
  match a.provider.backend with
  | .outside => do Run.await (← Run.ask (out.generate a.provider r))
  | .gemini client => client.generate out a.provider.model r

section
variable (out : Outside σ) (use : Tool → Value → ToolContext → Run σ (Except ToolError ToolOutput))
  (a : Agent) (context : ToolContext) (deadline : Option Nat)

/-- What comes of asking the model: what the provider answers, or an error if that takes too long. -/
inductive Replies (r : Request) (w : World σ) : Except ModelError Response → World σ → Prop
  | answered {answer w₁}
      (asked : within a.limits.modelTimeout (a.ask out r) deadline w = (some (some answer), w₁)) :
      Replies r w answer w₁
  | late {ms w₁} (limit : a.limits.modelTimeout = some ms)
      (asked : within a.limits.modelTimeout (a.ask out r) deadline w = (some none, w₁)) :
      Replies r w (.error .timeout) w₁

/-- From one world to another these things happen, in this order, and nothing else. -/
inductive Does : World σ → List Deed → World σ → Prop
  | nil {w} : Does w [] w
  | ask {r w answer w₁ ds w₂} (replied : a.Replies out deadline r w answer w₁) (rest : Does w₁ ds w₂) :
      Does w (.asked r answer :: ds) w₂
  | use {name args w output w₁ ds w₂} (proper : args.isNull = false)
      (given : a.Gives use context deadline ⟨name, args⟩ w output w₁) (rest : Does w₁ ds w₂) :
      Does w (.used name args output :: ds) w₂

def Settles (history : List Content) (prompt : List Part) (w : World σ) : Prop :=
  ∀ es r w₁ w₂, Turn.Rounds (a.askModel out) (a.callTool use context) deadline
    (a.firstRequest out w history prompt) w es r w₁ → es.length < a.limits.calls →
      ¬ Turn.Stalls (a.askModel out) (a.callTool use context) deadline r w₁ w₂

variable {out use a context deadline} {w w₁ w₂ : World σ}

theorem askModel_replies {r : Request} {answer : Except ModelError Response}
    (h : a.askModel out r deadline w = (some answer, w₁)) : a.Replies out deadline r w answer w₁ := by
  obtain ⟨reply, w₂, asked, h⟩ := bind_eq_some.mp h
  cases h
  cases reply with
  | some answer => exact .answered asked
  | none =>
    obtain ⟨ms, limit⟩ := limit_of_within asked
    exact .late limit asked

theorem isNull_callArgs (call : FunctionCall) : (callArgs call).isNull = false := by
  unfold callArgs
  by_cases null : call.args.isNull
  · rw [if_pos null]
    rfl
  · rw [if_neg null]
    simpa using null

theorem callArgs_of_proper {args : Value} (proper : args.isNull = false) (name : String) :
    callArgs ⟨name, args⟩ = args := if_neg (by simp [proper])

theorem callArgs_callArgs (call : FunctionCall) : callArgs ⟨call.name, callArgs call⟩ = callArgs call :=
  callArgs_of_proper (isNull_callArgs call) call.name

/-- A tool cannot tell whether its empty arguments were there. -/
theorem callTool_proper (call : FunctionCall) :
    a.callTool use context ⟨call.name, callArgs call⟩ = a.callTool use context call := by
  have same : shown ⟨call.name, callArgs call⟩ = shown call := by
    funext result
    unfold shown
    split <;> rfl
  unfold callTool
  rw [callArgs_callArgs, same]

theorem Does.append {ds ds' : List Deed} (h : a.Does out use context deadline w ds w₁)
    (h' : a.Does out use context deadline w₁ ds' w₂) : a.Does out use context deadline w (ds ++ ds') w₂ := by
  induction h with
  | nil => exact h'
  | ask replied _ ih => exact .ask replied (ih h')
  | use proper given _ ih => exact .use proper given (ih h')

theorem Does.split {ds ds' : List Deed} (h : a.Does out use context deadline w (ds ++ ds') w₂) :
    ∃ w₁, a.Does out use context deadline w ds w₁ ∧ a.Does out use context deadline w₁ ds' w₂ := by
  induction ds generalizing w with
  | nil => exact ⟨w, .nil, h⟩
  | cons d ds ih =>
    cases h with
    | ask replied rest =>
      obtain ⟨w₁, first, second⟩ := ih rest
      exact ⟨w₁, .ask replied first, second⟩
    | use proper given rest =>
      obtain ⟨w₁, first, second⟩ := ih rest
      exact ⟨w₁, .use proper given first, second⟩

theorem does_exchange {r : Request} {text : String} {call : FunctionCall} {output : ToolOutput}
    (asked : a.askModel out r deadline w = (some (.ok ⟨text, some call⟩), w₁))
    (used : a.callTool use context call deadline w₁ = (some output, w₂)) :
    a.Does out use context deadline w (Exchange.deeds ⟨r, .ok ⟨text, some call⟩, some output⟩) w₂ := by
  rw [← callTool_proper] at used
  have given := callTool_gives use a context deadline used
  exact .ask (askModel_replies asked) (.use (isNull_callArgs call) given .nil)

section
variable {r r₁ : Request} {es : List Exchange} {e : Exchange} {o : TurnOutcome}

theorem does_rounds
    (h : Turn.Rounds (a.askModel out) (a.callTool use context) deadline r w es r₁ w₁) :
    a.Does out use context deadline w (es.flatMap Exchange.deeds) w₁ := by
  induction h with
  | nil => exact .nil
  | cons round _ ih =>
    cases round with
    | mk asked used _ =>
      rw [List.flatMap_cons]
      exact (does_exchange asked used).append ih

theorem does_last {thinking : Bool}
    (h : Turn.Last (a.askModel out) (a.callTool use context) deadline thinking r w e o w₁) :
    a.Does out use context deadline w e.deeds w₁ := by
  cases h with
  | failed asked | answered asked _ => exact .ask (askModel_replies asked) .nil
  | signalled asked used _ => exact does_exchange asked used

theorem does_runs {thinking : Bool} {calls : Nat} {t : Turn}
    (h : Turn.Runs (a.askModel out) (a.callTool use context) deadline thinking calls r w (some t) w₁) :
    a.Does out use context deadline w (t.exchanges.flatMap Exchange.deeds) w₁ := by
  cases h with
  | ended rounds _ last =>
    rw [List.flatMap_append]
    have ends := does_last last
    exact (does_rounds rounds).append (by simpa using ends)
  | spent rounds _ => exact does_rounds rounds

end

end

/-! ## Every turn -/

end Agent

namespace Rehearsal

/-- The model calls a tool that there is not, and ends the conversation with the last call it has. -/
def closing : World Stage where
  outside := {
    models := [("main", .cues [⟨.respond ⟨"Let me look.", some ⟨"forecast", .null⟩⟩, 0⟩,
      ⟨.respond ⟨"Goodbye.", some ⟨"end_sub_conversation",
        .ofMembers [("status", .str "done"), ("final_result", .str "rain"), ("last_user_message", .str "Rain?")]⟩⟩, 0⟩,
      ⟨.respond ⟨"Too late.", none⟩, 0⟩])] }

end Rehearsal

end Concierge
