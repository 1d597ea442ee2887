import Concierge.Proofs.Answer.Grammar
import Concierge.Proofs.Run
import Concierge.Rehearsal.Script
import Concierge.Tool.Use

/-!
# The rounds of a turn

In each round but the last the model calls a function, and what the tool gives goes back to it. The
next request is the last one with the call and its result behind it, so the model always sees the
conversation that the turn began with, the prompt, and every round since (`Rounds.contents_eq`).
A turn is a run of rounds and an end (`loop_runs`).
-/

namespace Concierge

open Run

variable {σ : Type}

/-- What a round adds to the conversation: the call, behind its text if there is one, and the result. -/
def Exchange.shown (e : Exchange) : List Content :=
  match e.answer, e.output with
  | .ok ⟨text, some call⟩, some output =>
    [.model ((if text = "" then [] else [.text text]) ++ [.call call]),
      .user [.result ⟨call.name, .ofMembers [("result", .str output.content)]⟩]]
  | _, _ => []

namespace Turn

/-- What a turn says in the end if its model answers so. Of a model that thinks only the answer is passed on, if the
text can be read as one. -/
inductive Finalized : (thinking : Bool) → (text final : String) → Prop
  | plain {text} : Finalized false text text
  | read {text a} (reads : Answer.Reads text.toList (some a)) : Finalized true text a.final
  | unread {text} (reads : Answer.Reads text.toList none) : Finalized true text text

theorem finalized_iff {thinking : Bool} {text final : String} :
    Finalized thinking text final ↔ final = finalText thinking text := by
  unfold finalText
  constructor
  · intro h
    cases h with
    | plain => rfl
    | read reads =>
      have found : Answer.ofReply? text = _ := Answer.read_eq_iff.mpr reads
      rw [if_pos rfl, found]
      rfl
    | unread reads =>
      have absent : Answer.ofReply? text = _ := Answer.read_eq_iff.mpr reads
      rw [if_pos rfl, absent]
      rfl
  · rintro rfl
    cases thinking with
    | false => exact .plain
    | true =>
      rw [if_pos rfl]
      cases found : Answer.ofReply? text with
      | none => exact .unread (Answer.read_eq_iff.mp found)
      | some a => exact .read (Answer.read_eq_iff.mp found)

section
variable (model : Request → Run σ (Except ModelError Response)) (tool : FunctionCall → Run σ ToolOutput)
  (deadline : Option Nat)

inductive Round (r : Request) (w : World σ) : Exchange → Request → World σ → Prop
  | mk {text call output w₁ w₂} (asked : model r deadline w = (some (.ok ⟨text, some call⟩), w₁))
      (used : tool call deadline w₁ = (some output, w₂)) (plain : output.signal = none) :
      Round r w ⟨r, .ok ⟨text, some call⟩, some output⟩ (nextRequest r text call output.content) w₂

inductive Rounds : Request → World σ → List Exchange → Request → World σ → Prop
  | nil {r w} : Rounds r w [] r w
  | cons {r w e r₁ w₁ es r₂ w₂} (round : Round model tool deadline r w e r₁ w₁)
      (rest : Rounds r₁ w₁ es r₂ w₂) : Rounds r w (e :: es) r₂ w₂

inductive Last (thinking : Bool) (r : Request) (w : World σ) :
    Exchange → TurnOutcome → World σ → Prop
  | failed {e w₁} (asked : model r deadline w = (some (.error e), w₁)) :
      Last thinking r w ⟨r, .error e, none⟩ ⟨"Error communicating with the model: " ++ e.message, none⟩ w₁
  | answered {text final w₁} (asked : model r deadline w = (some (.ok ⟨text, none⟩), w₁))
      (finalized : Finalized thinking text final) :
      Last thinking r w ⟨r, .ok ⟨text, none⟩, none⟩ ⟨final, none⟩ w₁
  | signalled {text call output signal w₁ w₂}
      (asked : model r deadline w = (some (.ok ⟨text, some call⟩), w₁))
      (used : tool call deadline w₁ = (some output, w₂)) (signals : output.signal = some signal) :
      Last thinking r w ⟨r, .ok ⟨text, some call⟩, some output⟩ ⟨text, some signal⟩ w₂

inductive Stalls (r : Request) (w : World σ) : World σ → Prop
  | model {w₁} (cut : model r deadline w = (none, w₁)) : Stalls r w w₁
  | tool {text call w₁ w₂} (asked : model r deadline w = (some (.ok ⟨text, some call⟩), w₁))
      (cut : tool call deadline w₁ = (none, w₂)) : Stalls r w w₂

inductive Runs (thinking : Bool) (calls : Nat) (r : Request) (w : World σ) :
    Option Turn → World σ → Prop
  | ended {es r₁ w₁ e o w₂} (rounds : Rounds model tool deadline r w es r₁ w₁)
      (left : es.length < calls) (last : Last model tool deadline thinking r₁ w₁ e o w₂) :
      Runs thinking calls r w (some ⟨es ++ [e], o⟩) w₂
  | spent {es r₁ w₁} (rounds : Rounds model tool deadline r w es r₁ w₁) (all : es.length = calls) :
      Runs thinking calls r w
        (some ⟨es, ⟨"I was unable to complete the task within the allowed number of steps.", none⟩⟩) w₁
  | stalled {es r₁ w₁ w₂} (rounds : Rounds model tool deadline r w es r₁ w₁)
      (left : es.length < calls) (stalls : Stalls model tool deadline r₁ w₁ w₂) :
      Runs thinking calls r w none w₂

theorem Runs.cons {thinking : Bool} {calls : Nat} {r r₁ : Request} {w w₁ w₂ : World σ} {e : Exchange}
    {t : Option Turn} (round : Round model tool deadline r w e r₁ w₁)
    (rest : Runs model tool deadline thinking calls r₁ w₁ t w₂) :
    Runs model tool deadline thinking (calls + 1) r w (t.map (Turn.after e)) w₂ := by
  cases rest with
  | ended rounds left last => exact .ended (.cons round rounds) (Nat.succ_lt_succ left) last
  | spent rounds all => exact .spent (.cons round rounds) (congrArg Nat.succ all)
  | stalled rounds left stalls => exact .stalled (.cons round rounds) (Nat.succ_lt_succ left) stalls

theorem loop_runs (thinking : Bool) (calls : Nat) (r : Request) (w : World σ) :
    Runs model tool deadline thinking calls r w (loop model tool thinking calls r deadline w).1
      (loop model tool thinking calls r deadline w).2 := by
  induction calls generalizing r w with
  | zero => exact .spent .nil rfl
  | succ calls ih =>
    unfold loop
    rcases answers_or_not (model r) deadline w with ⟨answer, w₁, asked⟩ | ⟨w₁, cut⟩
    · rw [bind_of_some asked]
      rcases answer with e | ⟨text, _ | call⟩
      · exact .ended .nil (Nat.succ_pos _) (.failed asked)
      · exact .ended .nil (Nat.succ_pos _) (.answered asked (finalized_iff.mpr rfl))
      · dsimp only
        rcases answers_or_not (tool call) deadline w₁ with ⟨output, w₂, used⟩ | ⟨w₂, cut⟩
        · rw [bind_of_some used]
          cases signals : output.signal with
          | some signal => exact .ended .nil (Nat.succ_pos _) (.signalled asked used signals)
          | none =>
            dsimp only
            have rest := Runs.cons model tool deadline (.mk asked used signals) (ih _ w₂)
            rw [bind_run]
            rcases h : loop model tool thinking calls (nextRequest r text call output.content) deadline w₂
              with ⟨_ | t, w₃⟩
            all_goals
              rw [h] at rest
              exact rest
        · rw [bind_of_none cut]
          exact .stalled .nil (Nat.succ_pos _) (.tool asked cut)
    · rw [bind_of_none cut]
      exact .stalled .nil (Nat.succ_pos _) (.model cut)

end

/-! ## What a request carries -/

section
variable {model : Request → Run σ (Except ModelError Response)} {tool : FunctionCall → Run σ ToolOutput}
  {deadline : Option Nat} {r r₁ : Request} {w w₁ : World σ} {e : Exchange} {es : List Exchange}

theorem contents_nextRequest (r : Request) (text : String) (call : FunctionCall) (output : ToolOutput) :
    (nextRequest r text call output.content).contents =
      r.contents ++ Exchange.shown ⟨r, .ok ⟨text, some call⟩, some output⟩ := by
  simp [nextRequest, withCall, resultContent, Exchange.shown, Request.contents]

theorem Rounds.contents_eq (h : Rounds model tool deadline r w es r₁ w₁) :
    r₁.contents = r.contents ++ es.flatMap Exchange.shown := by
  induction h with
  | nil => simp
  | cons round _ ih =>
    cases round with
    | mk _ _ _ => rw [ih, contents_nextRequest, List.flatMap_cons, List.append_assoc]

theorem Rounds.frame (h : Rounds model tool deadline r w es r₁ w₁) :
    r₁.context = r.context ∧ r₁.tools = r.tools := by
  induction h with
  | nil => exact ⟨rfl, rfl⟩
  | cons round _ ih =>
    cases round with
    | mk _ _ _ => exact ih

theorem Rounds.called (h : Rounds model tool deadline r w es r₁ w₁) :
    ∀ e ∈ es, ∃ text call output w₂ w₃, e.answer = .ok ⟨text, some call⟩ ∧ e.output = some output ∧
      output.signal = none ∧ tool call deadline w₂ = (some output, w₃) := by
  induction h with
  | nil => simp
  | cons round _ ih =>
    intro e he
    rcases List.mem_cons.mp he with rfl | he
    · cases round with
      | mk _ used plain => exact ⟨_, _, _, _, _, rfl, rfl, plain, used⟩
    · exact ih e he

theorem Rounds.take (h : Rounds model tool deadline r w es r₁ w₁) {k : Nat} (found : es[k]? = some e) :
    ∃ w₂, Rounds model tool deadline r w (es.take k) e.request w₂ := by
  induction h generalizing k with
  | nil => simp at found
  | cons round rest ih =>
    cases k with
    | zero =>
      cases round with
      | mk _ _ _ =>
        simp only [List.getElem?_cons_zero, Option.some.injEq] at found
        subst found
        exact ⟨_, .nil⟩
    | succ k =>
      rw [List.getElem?_cons_succ] at found
      obtain ⟨w₂, rounds⟩ := ih found
      exact ⟨w₂, .cons round rounds⟩

theorem Last.request_eq {thinking : Bool} {o : TurnOutcome} (h : Last model tool deadline thinking r w e o w₁) :
    e.request = r := by
  cases h <;> rfl

theorem Runs.head {thinking : Bool} {calls : Nat} {t : Turn} (enough : 0 < calls)
    (h : Runs model tool deadline thinking calls r w (some t) w₁) :
    ∃ e, t.exchanges.head? = some e ∧ e.request = r := by
  have first {es : List Exchange} {e : Exchange} {r₁ : Request} {w₁ : World σ}
      (rounds : Rounds model tool deadline r w (e :: es) r₁ w₁) : e.request = r := by
    cases rounds with
    | cons round _ => cases round; rfl
  cases h with
  | @ended es _ _ e _ _ rounds _ last =>
    cases es with
    | nil =>
      cases rounds
      exact ⟨e, rfl, last.request_eq⟩
    | cons e' es => exact ⟨e', rfl, first rounds⟩
  | @spent es _ _ rounds all =>
    cases es with
    | nil => exact absurd all (Nat.ne_of_lt enough)
    | cons e' es => exact ⟨e', rfl, first rounds⟩

theorem Runs.take {thinking : Bool} {calls k : Nat} {t : Turn}
    (h : Runs model tool deadline thinking calls r w (some t) w₁) (found : t.exchanges[k]? = some e) :
    ∃ w₂, Rounds model tool deadline r w (t.exchanges.take k) e.request w₂ ∧
      (t.exchanges.take k).length < calls := by
  have bound : k < t.exchanges.length := (List.getElem?_eq_some_iff.mp found).1
  cases h with
  | @ended es r₁ w₁ last _ _ rounds left ends =>
    simp only [List.length_append, List.length_singleton] at bound
    by_cases inner : k < es.length
    · rw [List.getElem?_append_left inner] at found
      obtain ⟨w₂, rounds⟩ := rounds.take found
      rw [List.take_append_of_le_length (Nat.le_of_lt inner)]
      refine ⟨w₂, rounds, ?_⟩
      simp only [List.length_take]
      omega
    · have here : k = es.length := by omega
      subst here
      simp only [List.getElem?_concat_length, Option.some.injEq] at found
      subst found
      rw [List.take_left, ends.request_eq]
      exact ⟨_, rounds, left⟩
  | spent rounds all =>
    obtain ⟨w₂, rounds⟩ := rounds.take found
    refine ⟨w₂, rounds, ?_⟩
    simp only [List.length_take] at bound ⊢
    omega

end

end Turn

namespace Rehearsal

/-- The model calls a tool that the agent does not have, and then answers. -/
def weather : World Stage where
  outside := {
    models := [("main", .cues [⟨.respond ⟨"Let me look.", some ⟨"forecast", .null⟩⟩, 0⟩,
      ⟨.respond ⟨"I cannot tell.", none⟩, 0⟩])] }

def clerk : Agent := { role := "clerk", objective := "Help", context := "", provider := ⟨.outside, "main", 0⟩ }

end Rehearsal

/-! ## What a tool gives -/

namespace Agent

section
variable (use : Tool → Value → ToolContext → Run σ (Except ToolError ToolOutput)) (a : Agent)
  (context : ToolContext) (deadline : Option Nat)

/-- What the model is given for a call: what the tool puts out, or a text that says why there is
nothing. -/
inductive Gives (call : FunctionCall) (w : World σ) : ToolOutput → World σ → Prop
  | unknown (absent : a.tools.get? call.name = none) :
      Gives call w (.error ("Unknown tool: " ++ call.name)) w
  | answered {tool output w₁} (known : a.tools.get? call.name = some tool)
      (used : within a.limits.toolTimeout (use tool (callArgs call) context) deadline w =
        (some (some (.ok output)), w₁)) : Gives call w output w₁
  | disowned {tool name w₁} (known : a.tools.get? call.name = some tool)
      (used : within a.limits.toolTimeout (use tool (callArgs call) context) deadline w =
        (some (some (.error (.unknown name))), w₁)) :
      Gives call w (.error ("Unknown tool: " ++ name)) w₁
  | failed {tool e w₁} (known : a.tools.get? call.name = some tool)
      (used : within a.limits.toolTimeout (use tool (callArgs call) context) deadline w =
        (some (some (.error e)), w₁)) (owned : ∀ name, e ≠ .unknown name) :
      Gives call w (.error ("Error executing tool '" ++ call.name ++ "': " ++ e.message)) w₁
  | late {tool ms w₁} (known : a.tools.get? call.name = some tool)
      (limit : a.limits.toolTimeout = some ms)
      (used : within a.limits.toolTimeout (use tool (callArgs call) context) deadline w =
        (some none, w₁)) :
      Gives call w
        (.error ("Error executing tool '" ++ call.name ++ "': " ++ (ToolError.timeout ms).message)) w₁

theorem callTool_gives {call : FunctionCall} {output : ToolOutput} {w w₁ : World σ}
    (h : a.callTool use context call deadline w = (some output, w₁)) :
    a.Gives use context deadline call w output w₁ := by
  unfold callTool Toolbox.execute at h
  obtain ⟨result, w₂, used, h⟩ := bind_eq_some.mp h
  cases h
  cases known : a.tools.get? call.name with
  | none =>
    simp only [known] at used
    rw [within_pure] at used
    cases used
    exact .unknown known
  | some tool =>
    simp only [known] at used
    cases result with
    | none =>
      obtain ⟨ms, limit⟩ := limit_of_within used
      simp only [Option.getD_none, limit, Option.getD_some]
      exact .late known limit used
    | some result =>
      cases result with
      | ok output => exact .answered known used
      | error e =>
        cases e with
        | unknown name => exact .disowned known used
        | invalidInput _ _ | failed _ | timeout _ => exact .failed known used (fun _ => nofun)

variable {use a context deadline}

/-- A tool that always answers is shown to the model as it answers. -/
theorem Gives.eq_shown {call : FunctionCall} {output : ToolOutput} {t : Tool} {result : Except ToolError ToolOutput}
    {w w₁ w₂ : World σ} (h : a.Gives use context deadline call w output w₁) (known : a.tools.get? call.name = some t)
    (always : ∀ d, use t (callArgs call) context d w = (some result, w₂)) : output = shown call result ∧ w₁ = w₂ := by
  cases h with
  | unknown absent =>
    rw [known] at absent
    cases absent
  | answered known' used | disowned known' used =>
    cases known.symm.trans known'
    cases (within_of_answers always _).symm.trans used
    exact ⟨rfl, rfl⟩
  | @failed _ e _ known' used owned =>
    cases known.symm.trans known'
    cases (within_of_answers always _).symm.trans used
    cases e with
    | unknown name => exact absurd rfl (owned name)
    | invalidInput | failed | timeout => exact ⟨rfl, rfl⟩
  | late known' _ used =>
    cases known.symm.trans known'
    cases (within_of_answers always _).symm.trans used

end

/-! ## The requests of an agent -/

section
variable (out : Outside σ) (use : Tool → Value → ToolContext → Run σ (Except ToolError ToolOutput))
  (a : Agent) (history : List Content) (prompt : List Part) (context : ToolContext)
  (deadline : Option Nat) (w : World σ)

/-- After the exchanges `es` of its turn the agent asks the model with `r`. -/
def Asks (es : List Exchange) (r : Request) : Prop :=
  es.length < a.limits.calls ∧ ∃ w₁, Turn.Rounds (a.askModel out) (a.callTool use context) deadline
    (a.firstRequest out w history prompt) w es r w₁

theorem runTurn_runs :
    Turn.Runs (a.askModel out) (a.callTool use context) deadline a.thinking a.limits.calls
      (a.firstRequest out w history prompt) w (a.runTurn out use history prompt context deadline w).1
      (a.runTurn out use history prompt context deadline w).2 :=
  Turn.loop_runs _ _ _ _ _ _ _

variable {out use a history prompt context deadline w} {es : List Exchange} {r : Request}

theorem Asks.contents_eq (h : a.Asks out use history prompt context deadline w es r)
    (nonempty : prompt ≠ []) : r.contents = history ++ .user prompt :: es.flatMap Exchange.shown := by
  obtain ⟨-, _, rounds⟩ := h
  rw [rounds.contents_eq]
  simp [Request.contents, firstRequest, nonempty]

/-- **Every request carries the whole turn so far.** It has the instructions and the tools that the
turn began with, and its contents are the history, the prompt, and for each call so far the call and
what the tool gave for it. No other request is made: those of a turn that ends are the requests of its
exchanges, and a turn that never ends stalls at such a request. -/
theorem requests_follow_rounds (nonempty : prompt ≠ []) :
    (∀ es r, a.Asks out use history prompt context deadline w es r →
      r.context = some a.instructions ∧ r.tools = (a.firstRequest out w history prompt).tools ∧
        r.contents = history ++ .user prompt :: es.flatMap Exchange.shown ∧
        ∀ e ∈ es, ∃ text call output w₁ w₂, e.answer = .ok ⟨text, some call⟩ ∧
          e.output = some output ∧ output.signal = none ∧
          a.Gives use context deadline call w₁ output w₂) ∧
      (∀ t w₁, a.runTurn out use history prompt context deadline w = (some t, w₁) →
        ∀ k e, t.exchanges[k]? = some e →
          a.Asks out use history prompt context deadline w (t.exchanges.take k) e.request) ∧
      ∀ w₁, a.runTurn out use history prompt context deadline w = (none, w₁) →
        ∃ es r w₂, a.Asks out use history prompt context deadline w es r ∧
          Turn.Stalls (a.askModel out) (a.callTool use context) deadline r w₂ w₁ := by
  have runs := a.runTurn_runs out use history prompt context deadline w
  refine ⟨fun es r asks => ?_, fun t w₁ run k e found => ?_, fun w₁ run => ?_⟩
  · obtain ⟨-, _, rounds⟩ := id asks
    refine ⟨rounds.frame.1, rounds.frame.2, asks.contents_eq nonempty, fun e he => ?_⟩
    obtain ⟨text, call, output, w₂, w₃, answer, given, plain, used⟩ := rounds.called e he
    exact ⟨text, call, output, w₂, w₃, answer, given, plain, a.callTool_gives use context deadline used⟩
  · rw [run] at runs
    obtain ⟨w₂, rounds, left⟩ := runs.take found
    exact ⟨left, w₂, rounds⟩
  · rw [run] at runs
    cases runs with
    | stalled rounds left stalls => exact ⟨_, _, _, ⟨left, _, rounds⟩, stalls⟩

end

open Rehearsal in
theorem requests_follow_rounds_forecast :
    ∃ t w₁ e, clerk.runTurn Stage.outside (Tool.use Stage.outside []) [] [.text "Rain?"] ⟨"clerk", none⟩ none
        weather = (some t, w₁) ∧ t.exchanges[1]? = some e ∧
      e.request.contents = .user [.text "Rain?"] :: (t.exchanges.take 1).flatMap Exchange.shown ∧
      e.request.contents.length = 3 := by
  obtain ⟨t, w₁, run, seen⟩ := answer_of_seen
    (clerk.runTurn Stage.outside (Tool.use Stage.outside []) [] [.text "Rain?"] ⟨"clerk", none⟩) none weather
    (fun t _ => t.exchanges[1]?.map fun e => e.request.contents.length)
    (show _ = some (some 3) by decide +kernel)
  obtain ⟨e, found, length⟩ := Option.map_eq_some_iff.mp seen
  obtain ⟨carried, asked, -⟩ := @requests_follow_rounds _ Stage.outside (Tool.use Stage.outside []) clerk []
    [.text "Rain?"] ⟨"clerk", none⟩ none weather (List.cons_ne_nil _ _)
  have contents := (carried _ _ (asked t w₁ run 1 e found)).2.2.1
  exact ⟨t, w₁, e, run, found, contents, length⟩

end Agent

end Concierge
