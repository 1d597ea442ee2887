import Concierge.Proofs.Chat.Filing
import Concierge.Proofs.Handoff.Transcript
import Mathlib.Data.List.Chain

/-!
# Every request is a dialogue

A turn leaves a message of the user, perhaps with an answer behind it, or nothing at all. So a
transcript begins with the user and never has two messages of the model in a row, and what a model is
asked with is a `Dialogue`: the transcript, the prompt, and each call so far with its result. This holds
for a chat on its own, for the chats of a manager, and for every agent of a desk in the middle of a call.
-/

namespace Concierge

open Run Memory

variable {σ : Type}

/-! ## What turns leave -/

namespace Chat

def Spoken (ms : List Message) : Prop :=
  ∃ turns : List (String × TurnOutcome), ms = turns.flatMap fun t => messagesOf t.1 t.2

theorem spoken_nil : Spoken [] := ⟨[], rfl⟩

theorem Spoken.turn {ms : List Message} (h : Spoken ms) (message : String) (o : TurnOutcome) :
    Spoken (ms ++ messagesOf message o) := by
  obtain ⟨turns, rfl⟩ := h
  exact ⟨turns ++ [(message, o)], by simp⟩

theorem messagesOf_cases (message : String) (o : TurnOutcome) :
    messagesOf message o = [] ∨ messagesOf message o = [.user message] ∨
      messagesOf message o = [.user message, .model o.text] := by
  unfold messagesOf
  by_cases handed : handsOff o = true
  · exact .inl (if_pos handed)
  · rw [if_neg handed]
    by_cases silent : o.text.isEmpty = true
    · exact .inr (.inl (by rw [if_pos silent]))
    · exact .inr (.inr (by rw [if_neg silent]))

theorem Spoken.begins {ms : List Message} (h : Spoken ms) : ∀ m ∈ ms.head?, m.role = .user := by
  obtain ⟨turns, rfl⟩ := h
  induction turns with
  | nil => simp
  | cons t turns ih =>
    rw [List.flatMap_cons]
    rcases messagesOf_cases t.1 t.2 with left | left | left
    · rw [left]
      exact ih
    · simp [left, Message.user]
    · simp [left, Message.user]

theorem Spoken.alternates {ms : List Message} (h : Spoken ms) :
    ms.IsChain fun a b => a.role = .model → b.role = .user := by
  obtain ⟨turns, rfl⟩ := h
  induction turns with
  | nil => simp
  | cons t turns ih =>
    -- Behind an answer of the model comes what the next turn leaves, which begins with the user.
    have next := Spoken.begins ⟨turns, rfl⟩
    rw [List.flatMap_cons, List.isChain_append]
    refine ⟨?_, ih, fun _ _ b hb _ => next b hb⟩
    rcases messagesOf_cases t.1 t.2 with left | left | left <;> simp [left, Message.user]

end Chat

/-! ## Dialogues -/

/-- What a model can be asked with: it begins and ends with the user, the model never speaks twice in a
row, and whatever function it calls, the user's next turn is the result of that function and no more. -/
structure Dialogue (cs : List Content) : Prop where
  begins : ∃ c, cs.head? = some c ∧ c.role = .user
  ends : ∃ c, cs.getLast? = some c ∧ c.role = .user
  alternates : ∀ k a b, cs[k]? = some a → cs[k + 1]? = some b → ¬ (a.role = .model ∧ b.role = .model)
  answered : ∀ k a call, cs[k]? = some a → a.role = .model → .call call ∈ a.parts →
    ∃ b result, cs[k + 1]? = some b ∧ b.role = .user ∧ b.parts = [.result result] ∧ result.name = call.name

def Content.Precedes (a b : Content) : Prop :=
  a.role = .model → b.role = .user ∧
    ∀ call, .call call ∈ a.parts → ∃ result, b.parts = [.result result] ∧ result.name = call.name

theorem Content.precedes_of_user {a : Content} (user : a.role = .user) (b : Content) : a.Precedes b := by
  intro model
  rw [user] at model
  cases model

structure Talk (cs : List Content) : Prop where
  begins : ∃ c ∈ cs.head?, c.role = .user
  ends : ∃ c ∈ cs.getLast?, c.role = .user
  steps : cs.IsChain Content.Precedes

namespace Talk

variable {cs : List Content}

theorem next (h : Talk cs) {k : Nat} {a : Content} (found : cs[k]? = some a) (model : a.role = .model) :
    ∃ b, cs[k + 1]? = some b ∧ a.Precedes b := by
  obtain ⟨inside, rfl⟩ := List.getElem?_eq_some_iff.mp found
  -- The last content is the user's.
  have more : k + 1 < cs.length := by
    by_contra no
    obtain ⟨c, last, user⟩ := h.ends
    rw [Option.mem_def, List.getLast?_eq_getElem?, show cs.length - 1 = k by omega, found] at last
    cases last
    rw [user] at model
    cases model
  exact ⟨cs[k + 1], List.getElem?_eq_getElem more, List.isChain_iff_getElem.mp h.steps k more⟩

theorem dialogue (h : Talk cs) : Dialogue cs where
  begins := h.begins
  ends := h.ends
  alternates k a b at_ after both := by
    obtain ⟨b', after', precedes⟩ := h.next at_ both.1
    rw [after'] at after
    cases after
    have user := (precedes both.1).1
    rw [both.2] at user
    cases user
  answered k a call at_ model calls := by
    obtain ⟨b, after, precedes⟩ := h.next at_ model
    obtain ⟨user, results⟩ := precedes model
    obtain ⟨result, only, named⟩ := results call calls
    exact ⟨b, result, after, user, only, named⟩

theorem prompt {ms : List Message} (h : Chat.Spoken ms) (parts : List Part) :
    Talk (ms.map Message.content ++ [.user parts]) where
  begins := by
    cases ms with
    | nil => exact ⟨_, rfl, rfl⟩
    | cons m ms => exact ⟨_, rfl, h.begins m rfl⟩
  ends := ⟨_, List.getLast?_concat, rfl⟩
  steps := by
    have texts (m : Message) (call : FunctionCall) : Part.call call ∉ m.content.parts := by
      simp [Message.content]
    rw [List.isChain_append]
    refine ⟨?_, List.isChain_singleton _, ?_⟩
    · rw [List.isChain_map]
      exact h.alternates.imp fun a b user model => ⟨user model, fun call calls => (texts a call calls).elim⟩
    · rintro a last b prompt -
      cases prompt
      rw [List.getLast?_map] at last
      obtain ⟨m, -, rfl⟩ := Option.map_eq_some_iff.mp last
      exact ⟨rfl, fun call calls => (texts m call calls).elim⟩

theorem round (h : Talk cs) {e : Exchange} {text : String} {call : FunctionCall} {output : ToolOutput}
    (answer : e.answer = .ok ⟨text, some call⟩) (given : e.output = some output) : Talk (cs ++ e.shown) := by
  obtain ⟨request, _, _⟩ := e
  cases answer
  cases given
  obtain ⟨first, begins, user⟩ := h.begins
  obtain ⟨last, ends, asker⟩ := h.ends
  refine ⟨⟨first, ?_, user⟩, ⟨_, List.getLast?_append_of_ne_nil _ (List.cons_ne_nil _ _), rfl⟩, ?_⟩
  · rw [Option.mem_def] at begins ⊢
    rw [List.head?_append, begins]
    rfl
  · rw [List.isChain_append]
    refine ⟨h.steps, ?_, fun a last' b _ => ?_⟩
    · refine List.isChain_pair.mpr fun _ => ⟨rfl, fun call' calls => ⟨_, rfl, ?_⟩⟩
      have same : call' = call := by by_cases silent : text = "" <;> simpa [silent, Content.model] using calls
      rw [same]
    · rw [Option.mem_def, ends] at last'
      cases last'
      exact Content.precedes_of_user asker b

theorem rounds {es : List Exchange} (h : Talk cs)
    (called : ∀ e ∈ es, ∃ text call output, e.answer = .ok ⟨text, some call⟩ ∧ e.output = some output) :
    Talk (cs ++ es.flatMap Exchange.shown) := by
  induction es generalizing cs with
  | nil => simpa using h
  | cons e es ih =>
    obtain ⟨text, call, output, answer, given⟩ := called e List.mem_cons_self
    rw [List.flatMap_cons, ← List.append_assoc]
    exact ih (h.round answer given) fun e' he' => called e' (List.mem_cons_of_mem _ he')

end Talk

namespace Chat

/-! ## The requests of one chat -/

section
variable {out : Outside σ} {deadline : Option Nat} {c c' : Chat} {w w' : World σ} {message : String}

def Asks (out : Outside σ) (c : Chat) (message : String) (deadline : Option Nat) (w : World σ)
    (es : List Exchange) (r : Request) : Prop :=
  c.agent.Asks out (Tool.use out []) c.contents [.text message] c.toolContext deadline w es r

theorem Asks.dialogue {es : List Exchange} {r : Request} (h : c.Asks out message deadline w es r)
    (spoken : Spoken c.history) : Dialogue r.contents := by
  rw [Agent.Asks.contents_eq h (List.cons_ne_nil _ _), ← List.singleton_append, ← List.append_assoc]
  obtain ⟨-, _, rounds⟩ := h
  refine ((Talk.prompt spoken [.text message]).rounds fun e he => ?_).dialogue
  obtain ⟨text, call, output, _, _, answer, given, -⟩ := rounds.called e he
  exact ⟨text, call, output, answer, given⟩

theorem asks_of_turn {t : Turn} (h : c.turn out message deadline w = (some (t, c'), w')) {k : Nat}
    {e : Exchange} (found : t.exchanges[k]? = some e) :
    c.Asks out message deadline w (t.exchanges.take k) e.request := by
  obtain ⟨t', w₁, spoken, h⟩ := bind_eq_some.mp h
  obtain ⟨c₁, w₂, -, h⟩ := bind_eq_some.mp h
  cases h
  have runs := c.agent.runTurn_runs out (Tool.use out []) c.contents [.text message] c.toolContext deadline w
  rw [spoken] at runs
  obtain ⟨w₃, rounds, left⟩ := runs.take found
  exact ⟨left, w₃, rounds⟩

theorem asks_of_cut (h : c.turn out message deadline w = (none, w')) :
    ∃ es r w₁, c.Asks out message deadline w es r ∧
      Turn.Stalls (c.agent.askModel out) (c.agent.callTool (Tool.use out []) c.toolContext) deadline r w₁ w' := by
  have runs := c.agent.runTurn_runs out (Tool.use out []) c.contents [.text message] c.toolContext deadline w
  rcases answers_or_not (c.agent.runTurn out (Tool.use out []) c.contents [.text message] c.toolContext)
    deadline w with ⟨t, w₁, spoken⟩ | ⟨w₁, cut⟩
  · obtain ⟨_, recorded⟩ := recordAll_run out deadline w₁ c (messagesOf message t.outcome)
    unfold turn at h
    rw [bind_of_some spoken, bind_of_some recorded] at h
    cases h
  · unfold turn at h
    rw [bind_of_none cut] at h
    cases h
    rw [cut] at runs
    cases runs with
    | stalled rounds left stalls => exact ⟨_, _, _, ⟨left, _, rounds⟩, stalls⟩

end

/-! ## What becomes of a chat -/

section
variable {out : Outside σ} {deadline : Option Nat} {c c' : Chat} {w w' : World σ}

/-- What is taken up from the store was left there by turns. -/
def Act.Faithful (out : Outside σ) (c : Chat) (w : World σ) : Act → Prop
  | .resume id => ∀ store ms, c.memory.conversation = some store →
      w.stored out store id = some ms → Spoken ms
  | _ => True

variable (out) in
inductive Handled (c : Chat) : Chat → Prop
  | altered (agent : Agent) : Handled c { c with agent := agent }
  | acted {act : Act} {reply : Reply} {deadline : Option Nat} {c' : Chat} {w w' : World σ}
      (faithful : act.Faithful out c w) (done : c.perform out act deadline w = (some (reply, c'), w')) :
      Handled c c'

theorem Spoken.resume {b : Bool} {id : ChatId} (h : Spoken c.history)
    (faithful : (Act.resume id).Faithful out c w)
    (done : c.resume out id deadline w = (some (b, c'), w')) : Spoken c'.history := by
  unfold Chat.resume at done
  by_cases persistent : c.memory.isPersistent = true
  · simp only [persistent, if_true] at done
    cases place : c.memory.conversation with
    | none =>
      simp only [place] at done
      cases done
      exact h
    | some store =>
      simp only [place] at done
      obtain ⟨answer, w₁, read, done⟩ := bind_eq_some.mp done
      cases answer with
      | error e =>
        cases done
        exact spoken_nil
      | ok ms =>
        cases done
        refine faithful store ms place ?_
        have given : World.access out store id .history w = (.ok ms, w') := by
          unfold Run.access at read
          simpa [modifyGet_run, Prod.ext_iff] using read
        simp [World.stored, given, Except.toOption]
  · simp only [persistent] at done
    cases done
    exact h

theorem Spoken.perform {act : Act} {reply : Reply} (h : Spoken c.history)
    (faithful : act.Faithful out c w)
    (done : c.perform out act deadline w = (some (reply, c'), w')) : Spoken c'.history := by
  cases act with
  | turn message =>
    obtain ⟨⟨t, c₁⟩, w₁, turned, done⟩ := bind_eq_some.mp done
    cases done
    rw [turn_chat turned]
    exact h.turn message t.outcome
  | clearHistory =>
    obtain ⟨⟨b, c₁⟩, w₁, cleared, done⟩ := bind_eq_some.mp done
    cases done
    obtain ⟨_, _, _, kept⟩ := bind_eq_some.mp cleared
    cases kept
    exact spoken_nil
  | resume id =>
    obtain ⟨⟨b, c₁⟩, w₁, resumed, done⟩ := bind_eq_some.mp done
    cases done
    exact h.resume faithful resumed
  | setFact _ _ | fact _ | allFacts | addSummary _ | latestSummary | summaries _ =>
    obtain ⟨_, _, _, done⟩ := bind_eq_some.mp done
    cases done
    exact h

theorem Handled.spoken (h : c.Handled out c') (before : Spoken c.history) : Spoken c'.history := by
  cases h with
  | altered _ => exact before
  | acted faithful done => exact before.perform faithful done

end

/-! ## Stores that do not fail -/

/-- Every transcript that can be read from the store was left there by turns. -/
def Recorded (out : Outside σ) (store : StoreId) (w : World σ) : Prop :=
  ∀ id ms, w.stored out store id = some ms → Spoken ms

section
variable {out : Outside σ} {store : StoreId} {calm works : World σ → Prop} {deadline : Option Nat}
  {c c' : Chat} {w w' : World σ}

theorem Recorded.adds (adds : World.Adds out store calm works (fun _ => []) w w') (quiet : calm w)
    (h : works w → Recorded out store w) : calm w' ∧ (works w' → Recorded out store w') := by
  obtain ⟨quiet', kept⟩ := adds quiet
  refine ⟨quiet', fun ok id ms found => ?_⟩
  obtain ⟨before, same⟩ := kept ok
  refine h before id ms ?_
  rw [same id] at found
  simpa using found

section
variable (ha : Archive out store calm works) (quiet : calm w) (h : works w → Recorded out store w)
include ha quiet h

theorem Recorded.turn {message : String} {t : Turn} (turned : c.turn out message deadline w = (some (t, c'), w')) :
    calm w' ∧ (works w' → Recorded out store w') := by
  obtain ⟨quiet', kept⟩ := turn_adds ha.toWorking turned quiet
  refine ⟨quiet', fun ok id ms found => ?_⟩
  obtain ⟨before, gained⟩ := kept ok
  rw [gained id] at found
  obtain ⟨old, held, rfl⟩ := Option.map_eq_some_iff.mp found
  dsimp only
  split
  · exact (h before id old held).turn message t.outcome
  · simpa using h before id old held

theorem Recorded.clearHistory {b : Bool} (cleared : c.clearHistory out deadline w = (some (b, c'), w')) :
    calm w' ∧ (works w' → Recorded out store w') := by
  have idle := Recorded.adds (ha.drift.refl w) quiet h
  obtain ⟨answer, w₂, attempted, rest⟩ := bind_eq_some.mp cleared
  cases rest
  dsimp only at attempted
  rcases place : c.memory.conversation with _ | other
  · rw [place] at attempted
    cases attempted
    exact idle
  · rw [place] at attempted
    cases known : c.id with
    | none =>
      unfold attempt at attempted
      simp only [known] at attempted
      cases attempted
      exact idle
    | some id =>
      have after := attempt_world (show ({ c with history := [] } : Chat).id = some id from known) attempted
      subst after
      obtain ⟨quiet', kept⟩ := ha.clear other id w quiet
      refine ⟨quiet', fun ok k ms found => ?_⟩
      obtain ⟨before, held⟩ := kept ok
      rw [held k] at found
      split at found
      · cases found
        exact spoken_nil
      · exact h before k ms found

theorem Recorded.resume {b : Bool} {id : ChatId} (resumed : c.resume out id deadline w = (some (b, c'), w')) :
    calm w' ∧ (works w' → Recorded out store w') := by
  refine Recorded.adds ?_ quiet h
  unfold Chat.resume at resumed
  by_cases persistent : c.memory.isPersistent = true
  · simp only [persistent, if_true] at resumed
    cases place : c.memory.conversation with
    | none =>
      simp only [place] at resumed
      cases resumed
      exact ha.drift.refl _
    | some other =>
      simp only [place] at resumed
      obtain ⟨answer, w₁, read, rest⟩ := bind_eq_some.mp resumed
      have adds := (along_modifyGet (ha.keeps other id (show Operation.history.keepsMessages = true from rfl))).of_run read
      cases answer <;> cases rest <;> exact adds
  · simp only [persistent] at resumed
    cases resumed
    exact ha.drift.refl _

/-- **A store that works keeps only what turns have left**, whatever is done with whatever chat. So what
is taken up from it was left by turns. -/
theorem Recorded.perform {act : Act} {reply : Reply}
    (done : c.perform out act deadline w = (some (reply, c'), w')) :
    calm w' ∧ (works w' → Recorded out store w') := by
  have beside {α : Type} {x : Run σ α} {f : α → Reply}
      (along : Along (World.Adds out store calm works fun _ => []) x)
      (ran : (do return (f (← x), c) : Run σ (Reply × Chat)) deadline w = (some (reply, c'), w')) :
      calm w' ∧ (works w' → Recorded out store w') :=
    Recorded.adds (aside_adds along ran).2 quiet h
  cases act with
  | turn message =>
    obtain ⟨⟨t, c₁⟩, w₁, turned, done⟩ := bind_eq_some.mp done
    cases done
    exact Recorded.turn ha quiet h turned
  | clearHistory =>
    obtain ⟨⟨b, c₁⟩, w₁, cleared, done⟩ := bind_eq_some.mp done
    cases done
    exact Recorded.clearHistory ha quiet h cleared
  | resume id =>
    obtain ⟨⟨b, c₁⟩, w₁, resumed, done⟩ := bind_eq_some.mp done
    cases done
    exact Recorded.resume ha quiet h resumed
  | setFact key v => exact beside (along_then ha.drift (along_attempt ha c _ rfl)) done
  | fact key => exact beside (along_then ha.drift (along_attempt ha c _ rfl)) done
  | allFacts => exact beside (along_then ha.drift (along_attempt ha c _ rfl)) done
  | addSummary content => exact beside (along_addSummary ha c content) done
  | latestSummary => exact beside (along_then ha.drift (along_attempt ha c _ rfl)) done
  | summaries limit => exact beside (along_then ha.drift (along_attempt ha c _ rfl)) done

end

variable (out store calm works) in
/-- Nothing was in the store once, and since then nothing was done to what it keeps but what was done with
some chat. -/
inductive Written : World σ → Prop
  | empty {w : World σ} (quiet : calm w) (nothing : ∀ id ms, w.stored out store id = some ms → ms = []) : Written w
  | acted {act : Act} {reply : Reply} {deadline : Option Nat} {c c' : Chat} {w w' : World σ} (before : Written w)
      (done : c.perform out act deadline w = (some (reply, c'), w')) : Written w'
  | elsewhere {w w' : World σ} (before : Written w)
      (adds : World.Adds out store calm works (fun _ => []) w w') : Written w'

theorem Written.recorded (ha : Archive out store calm works) (h : Written out store calm works w) :
    calm w ∧ (works w → Recorded out store w) := by
  induction h with
  | empty quiet nothing =>
    refine ⟨quiet, fun _ id ms found => ?_⟩
    rw [nothing id ms found]
    exact spoken_nil
  | acted _ done ih => exact Recorded.perform ha ih.1 ih.2 done
  | elsewhere _ adds ih => exact Recorded.adds adds ih.1 ih.2

theorem Written.cut {message : String} (ha : Archive out store calm works) (h : Written out store calm works w)
    (cut : c.turn out message deadline w = (none, w')) : Written out store calm works w' := by
  refine h.elsewhere ?_
  obtain ⟨t, w₁, spoken⟩ | ⟨w₁, spoken⟩ := answers_or_not
    (c.agent.runTurn out (Tool.use out []) c.contents [.text message] c.toolContext) deadline w
  · obtain ⟨_, recorded⟩ := recordAll_run out deadline w₁ c (messagesOf message t.outcome)
    unfold turn at cut
    rw [bind_of_some spoken, bind_of_some recorded] at cut
    cases cut
  · unfold turn at cut
    rw [bind_of_none spoken] at cut
    cases cut
    exact (Agent.along_turn ha.agentDrift c.agent c.contents [.text message] fun _ _ => trivial).of_run spoken

theorem Written.turn {message : String} {t : Turn} (h : Written out store calm works w)
    (turned : c.turn out message deadline w = (some (t, c'), w')) : Written out store calm works w' := by
  have performed : c.perform out (.turn message) deadline w = (some (.turn t, c'), w') := bind_of_some turned _
  exact h.acted performed

section
open DeskSession

variable {message : String} {s s₁ : DeskSession}

theorem Written.hop {d : Dispatch} (h : Written out store calm works w)
    (hop : Hop out message deadline s w d s₁ w') : Written out store calm works w' := by
  cases hop with
  | coordinator _ taken | specialist _ _ taken => exact h.turn taken

theorem Written.passes {ds : List Dispatch} (ha : Archive out store calm works) (h : Written out store calm works w)
    (passes : Passes out message deadline s w ds s₁ w') : Written out store calm works w' := by
  induction passes with
  | nil => exact h
  | cons hop on _ ih => exact ih ((h.hop hop).elsewhere (on.along ha.agentDrift))

theorem Written.ends {hops : Nat} {result : Option (Routed × DeskSession)} (ha : Archive out store calm works)
    (h : Written out store calm works w) (ends : Ends out message deadline hops s w result w') :
    Written out store calm works w' := by
  cases ends with
  | spent passes _ => exact h.passes ha passes
  | answered passes _ hop stays _ => exact ((h.passes ha passes).hop hop).elsewhere (stays.along ha.agentDrift)
  | silent passes _ silent =>
    cases silent with
    | coordinator _ cut | specialist _ _ cut => exact (h.passes ha passes).cut ha cut

end

end

end Chat

/-! ## The chats of managers and desks -/

namespace ChatManager

variable {out : Outside σ} {m m' : ChatManager} {session : String} {deadline : Option Nat} {c : Chat}
  {w w' : World σ}

variable (out) in
/-- What becomes of a manager. Whoever visits a session may do anything with its chat. -/
inductive Course : ChatManager → Prop
  | opened {m : ChatManager} (none : m.sessions = []) : Course m
  | message {m : ChatManager} {session message : String} {deadline : Option Nat} {reply : String}
      {m' : ChatManager} {w w' : World σ} (before : Course m)
      (done : m.process out session message deadline w = (some (reply, m'), w')) : Course m'
  | visited {m : ChatManager} {session : String} {deadline : Option Nat} {c c' : Chat} {m' : ChatManager}
      {w w' : World σ} (before : Course m) (found : m.chat out session deadline w = (some (c, m'), w'))
      (handled : c.Handled out c') : Course (m'.setChat session c')
  | found {m : ChatManager} {session : String} {deadline : Option Nat} {c : Chat} {m' : ChatManager}
      {w w' : World σ} (before : Course m) (found : m.chat out session deadline w = (some (c, m'), w')) :
      Course m'
  | ended {m : ChatManager} {session : String} {deadline : Option Nat} {ended : Bool} {m' : ChatManager}
      {w w' : World σ} (before : Course m)
      (done : m.endSession out session deadline w = (some (ended, m'), w')) : Course m'
  | shutdown {m : ChatManager} {deadline : Option Nat} {m' : ChatManager} {w w' : World σ}
      (before : Course m) (done : m.shutdown out deadline w = (some m', w')) : Course m'
  | replanned {m : ChatManager} (before : Course m) (plan : StorePlan) :
      Course { m with memory := m.memory.replan plan }

def AllSpoken (m : ChatManager) : Prop :=
  ∀ session c, m.sessions.get? session = some c → Chat.Spoken c.history

theorem AllSpoken.setChat (h : m.AllSpoken) (session : String) (spoken : Chat.Spoken c.history) :
    (m.setChat session c).AllSpoken := by
  intro j c' has
  unfold ChatManager.setChat at has
  rw [Table.get?_put] at has
  split at has
  · cases has
    exact spoken
  · exact h j c' has

theorem AllSpoken.chat (h : m.AllSpoken) (found : m.chat out session deadline w = (some (c, m'), w')) :
    Chat.Spoken c.history ∧ m'.AllSpoken := by
  unfold ChatManager.chat at found
  cases has : m.sessions.get? session with
  | some old =>
    rw [has] at found
    cases found
    exact ⟨h session _ has, h⟩
  | none =>
    rw [has] at found
    obtain ⟨memory, w₁, -, found⟩ := bind_eq_some.mp found
    obtain ⟨new, w₂, built, found⟩ := bind_eq_some.mp found
    cases found
    have spoken : Chat.Spoken c.history := by
      rw [Chat.build_history built]
      exact Chat.spoken_nil
    exact ⟨spoken, h.setChat session spoken⟩

theorem Course.allSpoken (h : Course out m) : m.AllSpoken := by
  induction h with
  | opened none =>
    intro session c has
    rw [none] at has
    cases has
  | message _ done ih =>
    obtain ⟨⟨c, m₁⟩, w₁, found, done⟩ := bind_eq_some.mp done
    obtain ⟨⟨t, c'⟩, w₂, turned, done⟩ := bind_eq_some.mp done
    cases done
    obtain ⟨spoken, others⟩ := ih.chat found
    refine others.setChat _ ?_
    rw [Chat.turn_chat turned]
    exact spoken.turn _ _
  | visited _ found handled ih =>
    obtain ⟨spoken, others⟩ := ih.chat found
    exact others.setChat _ (handled.spoken spoken)
  | found _ found ih => exact (ih.chat found).2
  | @ended m session _ _ _ _ _ _ done ih =>
    unfold ChatManager.endSession at done
    cases has : m.sessions.get? session with
    | none =>
      rw [has] at done
      cases done
      exact ih
    | some c =>
      rw [has] at done
      obtain ⟨_, _, _, done⟩ := bind_eq_some.mp done
      cases done
      intro j c' kept
      rw [Table.get?_erase] at kept
      split at kept
      · cases kept
      · exact ih j c' kept
  | shutdown _ done _ =>
    obtain ⟨_, _, _, done⟩ := bind_eq_some.mp done
    cases done
    intro session c has
    cases has
  | replanned _ _ ih => exact ih

end ChatManager

namespace Desk

open DeskSession

theorem lasting_spoken (out : Outside σ) : Lasting out fun _ s => ∀ x, Chat.Spoken (s.transcript x) where
  new made x := by
    obtain ⟨chat, memory, rfl, fresh⟩ := newSession_eq made
    cases x with
    | coordinator =>
      show Chat.Spoken chat.history
      rw [fresh]
      exact Chat.spoken_nil
    | specialist role => exact Chat.spoken_nil
  refresh held refreshed x := by
    cases refreshed with
    | current _ => exact held x
    | dropped _ _ | lost _ _ _ =>
      cases x with
      | coordinator => exact held .coordinator
      | specialist role => exact Chat.spoken_nil
    | @rebuilt role chat _ _ _ made =>
      cases x with
      | coordinator => exact held .coordinator
      | specialist other =>
        by_cases same : other = role
        · rw [transcript_known (show lookupName other [(role, chat)] = some chat by simp [lookupName, same]),
            (made_of_buildSpecialist made).2]
          exact Chat.spoken_nil
        · rw [transcript_absent (by simpa [lookupName] using same)]
          exact Chat.spoken_nil
  call held _ ends x := by
    cases ends with
    | spent passes _ =>
      refine Eq.mpr (congrArg Chat.Spoken ?_) (held x)
      exact passes.transcript_eq x
    | answered passes _ hop _ _ =>
      rw [hop.transcript_eq, passes.transcript_eq]
      split
      · exact (held x).turn _ _
      · simpa using held x

end Desk

namespace Chat

open DeskSession

/-- The chats that there are: those on their own, those in the sessions of a manager, and in a session of
a desk those of the coordinator and the specialists, at any moment of a call. -/
inductive InPlay (out : Outside σ) : Chat → Prop
  | made {agent : Agent} {memory : Adapters} {deadline : Option Nat} {c : Chat} {w w' : World σ}
      (done : make out agent memory deadline w = (some c, w')) : InPlay out c
  | built {config : ChatConfig} {p : Provider} {tools : Toolbox} {memory : Adapters} {registry : Bool}
      {deadline : Option Nat} {c : Chat} {w w' : World σ}
      (done : build out config p tools memory registry deadline w = (some c, w')) : InPlay out c
  | handled {c c' : Chat} (before : InPlay out c) (done : c.Handled out c') : InPlay out c'
  | managed {m m' : ChatManager} {session : String} {deadline : Option Nat} {c : Chat} {w w' : World σ}
      (course : ChatManager.Course out m) (found : m.chat out session deadline w = (some (c, m'), w')) :
      InPlay out c
  | coordinator {d d' : Desk} {w w₁ w₂ : World σ} {log : String → List Entry} {id message : String}
      {deadline : Option Nat} {s s₁ : DeskSession} {ds : List Dispatch} (course : Desk.Course out d w log)
      (opens : Desk.Opens out deadline d id w s d' w₁)
      (passes : Passes out message deadline s w₁ ds s₁ w₂) : InPlay out s₁.coordinator
  | specialist {d d' : Desk} {w w₁ w₂ : World σ} {log : String → List Entry} {id message role : String}
      {deadline : Option Nat} {s s₁ : DeskSession} {ds : List Dispatch} {c : Chat}
      (course : Desk.Course out d w log) (opens : Desk.Opens out deadline d id w s d' w₁)
      (passes : Passes out message deadline s w₁ ds s₁ w₂)
      (known : lookupName role s₁.specialists = some c) : InPlay out c

variable {out : Outside σ} {c : Chat}

theorem make_history {agent : Agent} {memory : Adapters} {deadline : Option Nat} {w w' : World σ}
    (done : make out agent memory deadline w = (some c, w')) : c.history = [] := by
  unfold make at done
  split at done
  · obtain ⟨id, _, -, done⟩ := bind_eq_some.mp done
    cases done
    rfl
  · cases done
    rfl

theorem InPlay.spoken (h : InPlay out c) : Spoken c.history := by
  induction h with
  | made done =>
    rw [make_history done]
    exact spoken_nil
  | built done =>
    rw [build_history done]
    exact spoken_nil
  | handled _ done ih => exact done.spoken ih
  | managed course found => exact (course.allSpoken.chat found).1
  | coordinator course opens passes =>
    refine Eq.mpr (congrArg Spoken ?_) ((course.holds_opened (Desk.lasting_spoken out) opens).2 .coordinator)
    exact passes.transcript_eq .coordinator
  | @specialist _ _ _ _ _ _ _ _ role _ _ _ _ _ course opens passes known =>
    rw [← transcript_known known, passes.transcript_eq]
    exact (course.holds_opened (Desk.lasting_spoken out) opens).2 (.specialist role)

/-- **Every request is a well-formed dialogue.** The transcript of a chat begins with the user, never has
two messages of the model in a row, and whatever message the chat is given, in whatever world, all that
its model is asked with is a dialogue: after every round of the turn, in each exchange of a turn that
ends, and where a turn that never ends is held up. What it takes up from a store that works was left there
by turns, if nothing was done to the store but by chats, be they on their own or at a desk. -/
theorem requests_are_dialogues (h : InPlay out c) :
    (∀ m ∈ c.history.head?, m.role = .user) ∧
      c.history.IsChain (fun a b => ¬ (a.role = .model ∧ b.role = .model)) ∧
      (∀ message deadline w,
        (∀ es r, c.Asks out message deadline w es r → Dialogue r.contents) ∧
        (∀ t c' w', c.turn out message deadline w = (some (t, c'), w') →
          ∀ e ∈ t.exchanges, Dialogue e.request.contents) ∧
        ∀ w', c.turn out message deadline w = (none, w') → ∃ es r w₁, Dialogue r.contents ∧
          c.Asks out message deadline w es r ∧
          Turn.Stalls (c.agent.askModel out) (c.agent.callTool (Tool.use out []) c.toolContext) deadline r w₁ w') ∧
      ∀ store calm works, Archive out store calm works →
        (∀ w message deadline hops s result w', Written out store calm works w →
          Ends out message deadline hops s w result w' → Written out store calm works w') ∧
        ∀ w id, c.memory.conversation = some store → Written out store calm works w → works w →
          (Act.resume id).Faithful out c w := by
  have spoken := h.spoken
  refine ⟨spoken.begins, spoken.alternates.imp fun a b user both => ?_, fun message deadline w =>
    ⟨fun es r asks => asks.dialogue spoken, fun t c' w' turned e he => ?_, fun w' cut => ?_⟩,
    fun store calm works ha => ⟨fun _ _ _ _ _ _ _ written ends => written.ends ha ends,
      fun w id place written ok other ms place' held => ?_⟩⟩
  · have asked := user both.1
    rw [both.2] at asked
    cases asked
  · obtain ⟨k, found⟩ := List.getElem?_of_mem he
    exact (asks_of_turn turned found).dialogue spoken
  · obtain ⟨es, r, w₁, asks, stalls⟩ := asks_of_cut cut
    exact ⟨es, r, w₁, asks.dialogue spoken, asks, stalls⟩
  · rw [place] at place'
    cases place'
    exact (written.recorded ha).2 ok id ms held

end Chat

namespace Rehearsal

/-- In each of two turns the model asks for a forecast in vain; there is a store in memory. -/
def forecasts : World Stage where
  outside := {
    models := [("main", .cues [⟨.respond ⟨"Let me look.", some ⟨"forecast", .null⟩⟩, 0⟩,
      ⟨.respond ⟨"I cannot tell.", none⟩, 0⟩, ⟨.respond ⟨"", some ⟨"forecast", .null⟩⟩, 0⟩,
      ⟨.respond ⟨"Still nothing.", none⟩, 0⟩])] }
  stores := [.memory {}]

end Rehearsal

open Rehearsal in
theorem Chat.requests_are_dialogues_forecasts :
    ∃ (c c' c'' : Chat) (w w' w'' : World Stage) (id : ChatId) (t : Turn) (e : Exchange),
      InPlay Stage.outside c ∧
      c.resume Stage.outside id none w = (some (true, c'), w') ∧ c'.history.length = 2 ∧
      c'.turn Stage.outside "And now?" none w' = (some (t, c''), w'') ∧
      t.exchanges[1]? = some e ∧ e.request.contents.length = 5 ∧ Dialogue e.request.contents := by
  obtain ⟨c, w₀, made, empty⟩ : ∃ c w₀, Chat.make Stage.outside clerk diary none forecasts = (some c, w₀) ∧
      w₀.stores[0]? = some (.memory {}) := ⟨_, _, rfl, rfl⟩
  obtain ⟨⟨⟨t₁, c₁⟩, w, ⟨b, c'⟩, w', t, c''⟩, w'', ran, seen⟩ := answer_of_seen
    (do
      let c ← Chat.make Stage.outside clerk diary
      let first ← c.turn Stage.outside "Rain?"
      let w ← Run.get
      let resumed ← c.resume Stage.outside (first.2.id.getD ⟨0⟩)
      let w' ← Run.get
      let last ← resumed.2.turn Stage.outside "And now?"
      return (first, w, resumed, w', last)) none forecasts
    (fun (_, w, (b, c'), _, t, _) _ => (decide (w.OpenInMemory ⟨0⟩), b, c'.history.length,
      t.exchanges[1]?.map fun e => e.request.contents.length))
    (show _ = some (true, true, 2, some 5) by decide +kernel)
  simp only [Prod.mk.injEq, decide_eq_true_eq] at seen
  obtain ⟨isOpen, rfl, two, last⟩ := seen
  obtain ⟨e, found, five⟩ := Option.map_eq_some_iff.mp last
  rw [bind_of_some made] at ran
  obtain ⟨_, w₁, first, ran⟩ := bind_eq_some.mp ran
  obtain ⟨_, _, got, ran⟩ := bind_eq_some.mp ran
  cases got
  obtain ⟨_, w₂, resumed, ran⟩ := bind_eq_some.mp ran
  obtain ⟨_, _, got, ran⟩ := bind_eq_some.mp ran
  cases got
  obtain ⟨_, w₃, turned, ran⟩ := bind_eq_some.mp ran
  cases ran
  have none_yet : Written Stage.outside ⟨0⟩ (fun _ => True) (World.OpenInMemory ⟨0⟩) w₀ := by
    refine .empty trivial fun id ms held => ?_
    rw [World.stored_memory empty rfl] at held
    exact (Option.some.inj held).symm
  have place : c.memory.conversation = some ⟨0⟩ := by cases made; rfl
  have faithful := ((requests_are_dialogues (.made made)).2.2.2 ⟨0⟩ _ _ (archive_inMemory _ _)).2 w
    (c₁.id.getD ⟨0⟩) place (none_yet.turn first) isOpen
  have taken : c.perform Stage.outside (.resume (c₁.id.getD ⟨0⟩)) none w = (some (.done true, c'), w') :=
    bind_of_some resumed _
  have dialogues := (requests_are_dialogues (.handled (.made made) (.acted faithful taken))).2.2.1 "And now?" none w'
  exact ⟨c, c', c'', w, w', w'', _, t, e, .made made, resumed, two, turned, found, five,
    dialogues.2.1 t c'' w'' turned e (List.mem_of_getElem? found)⟩

end Concierge
