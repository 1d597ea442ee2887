import Concierge.Chat.Basic
import Concierge.Proofs.ChatId
import Concierge.Proofs.Run

/-!
# What a turn does to the world and to its chat

All that happens in a turn is made of small steps: the outside is asked, a store is used, an agent is
taken from the registry and its task is noted. A relation that allows these steps is kept to by every
turn, however deep agents run within each other (`Chat.along_turn`). The chat itself only gains the
messages of the turn (`Chat.turn_chat`).
-/

namespace Concierge

open Run

variable {σ : Type}

def Memory.Operation.onFacts {α : Type} : Memory.Operation α → Bool
  | setFact .. | fact? _ | allFacts => true
  | _ => false

def Registry.Makes (r : Registry) (role : String) (a : Agent) : Prop :=
  ∃ d p, r.validate role = .ok d ∧ r.providers.get? (r.modelOf d) = some p ∧ a = r.agentFor d p

/-- A relation between worlds that allows every small step of an agent in one of its own chats. -/
structure AgentDrift (out : Outside σ) (own : ChatId → Prop) (R : World σ → World σ → Prop) : Prop
    extends Drift out R where
  facts : ∀ {α : Type} (store : StoreId) {chat : ChatId} {op : Memory.Operation α}, op.onFacts = true →
    own chat → Along R (Run.access out store chat op)
  addProvider : ∀ w model, R w { w with registry := (w.registry.addProvider model).2 }
  addAgent : ∀ w role a, w.registry.Makes role a → R w { w with registry := (w.registry.addAgent role a).2 }
  setTask : ∀ w role serial task, R w { w with registry := w.registry.setTask role serial task }

/-- It allows every small step of a turn of a chat, which also records messages. -/
structure TurnDrift (out : Outside σ) (own : ChatId → Prop) (R : World σ → World σ → Prop) : Prop
    extends AgentDrift out own R where
  record : ∀ (store : StoreId) {chat : ChatId} (m : Message), own chat →
    Along R (Run.access out store chat (.append m))

def ToolContext.Within (own : ChatId → Prop) (c : ToolContext) : Prop := ∀ id, Tool.chat? c = some id → own id

section
variable {out : Outside σ} {own : ChatId → Prop} {R : World σ → World σ → Prop}

/-! ## Asking a model -/

theorem Gemini.Client.along_attempt (hR : Drift out R) (c : Gemini.Client) (url : Option Url)
    (r : Request) : Along R (c.attempt out url r) := by
  unfold Gemini.Client.attempt
  cases url with
  | none => exact along_pure hR _
  | some url =>
    refine along_bind hR (along_within _ (along_bind hR (along_ask hR fun _ => .send _) (along_await hR))) fun reply => ?_
    split <;> exact along_pure hR _

theorem Gemini.Client.along_attempts (hR : Drift out R) (c : Gemini.Client) (url : Option Url)
    (r : Request) (left done : Nat) : Along R (c.attempts out url r left done) := by
  induction left generalizing done with
  | zero =>
    unfold Gemini.Client.attempts
    refine along_bind hR (along_attempt hR c url r) fun answer => ?_
    split <;> exact along_pure hR _
  | succ left ih =>
    unfold Gemini.Client.attempts
    refine along_bind hR (along_attempt hR c url r) fun answer => ?_
    split
    · exact along_pure hR _
    · simp only
      split
      · exact along_bind hR (along_ask hR fun _ => .jitter) fun jitter => along_bind hR (along_sleep hR _) fun _ => ih _
      · exact along_pure hR _

theorem Gemini.Client.along_generate (hR : Drift out R) (c : Gemini.Client) (model : String) (r : Request) :
    Along R (c.generate out model r) := by
  unfold Gemini.Client.generate
  split
  · exact along_attempts hR c _ r _ _
  · exact along_pure hR _

theorem Agent.along_askModel (hR : Drift out R) (a : Agent) (r : Request) : Along R (a.askModel out r) := by
  unfold Agent.askModel
  refine along_bind hR (along_within _ ?_) fun _ => along_pure hR _
  split
  · exact along_bind hR (along_ask hR fun _ => .generate _ _) (along_await hR)
  · exact Gemini.Client.along_generate hR _ _ r

/-! ## Turns with a given use of tools -/

theorem Turn.along_loop (hR : Drift out R) {model : Request → Run σ (Except ModelError Response)}
    {tool : FunctionCall → Run σ ToolOutput} (hm : ∀ r, Along R (model r)) (ht : ∀ c, Along R (tool c))
    (thinking : Bool) (calls : Nat) (r : Request) : Along R (loop model tool thinking calls r) := by
  induction calls generalizing r with
  | zero => exact along_pure hR _
  | succ calls ih =>
    unfold loop
    refine along_bind hR (hm r) fun answer => ?_
    cases answer with
    | error e => exact along_pure hR _
    | ok response =>
      simp only
      split
      · exact along_pure hR _
      · refine along_bind hR (ht _) fun output => ?_
        split
        · exact along_pure hR _
        · exact along_bind hR (ih _) fun _ => along_pure hR _

section
variable {use : Tool → Value → ToolContext → Run σ (Except ToolError ToolOutput)}

theorem Agent.along_callTool (hR : Drift out R) {context : ToolContext}
    (hu : ∀ t args, Along R (use t args context)) (a : Agent) (call : FunctionCall) :
    Along R (a.callTool use context call) := by
  unfold Agent.callTool Toolbox.execute
  refine along_bind hR (along_within _ ?_) fun _ => along_pure hR _
  split
  · exact along_pure hR _
  · exact hu _ _

theorem Agent.along_runTurn (hR : Drift out R) {context : ToolContext}
    (hu : ∀ t args, Along R (use t args context)) (a : Agent) (history : List Content) (prompt : List Part) :
    Along R (a.runTurn out use history prompt context) := by
  unfold Agent.runTurn
  refine along_bind hR (along_get hR) fun w => ?_
  exact Turn.along_loop hR (along_askModel hR a) (along_callTool hR hu a) _ _ _

end

/-! ## Taking from the registry -/

theorem World.checkModel_registry (out : Outside σ) (model : String) (w : World σ) :
    (checkModel out model w).2.registry = w.registry := by
  unfold checkModel
  split <;> rfl

section
variable (hR : AgentDrift out own R)
include hR

theorem World.along_provider (model : String) : Along R (.modifyGet (World.provider out model)) := by
  refine along_modifyGet fun w => ?_
  have checked : R w (checkModel out model w).2 := by
    unfold checkModel
    split
    · exact hR.outside w _ (.createModel model)
    · exact hR.refl w
  unfold provider
  split
  · exact hR.refl w
  · split
    · rename_i e w₁ h
      rw [h] at checked
      exact checked
    · rename_i w₁ h
      rw [h] at checked
      exact hR.trans checked (hR.addProvider w₁ model)

omit hR in
theorem World.makes_of_provider {role : String} {d : Specialist} {p : Provider} {w w₁ : World σ}
    (valid : w.registry.validate role = .ok d)
    (h : provider out (w.registry.modelOf d) w = (.ok p, w₁)) : w₁.registry.Makes role (w₁.registry.agentFor d p) := by
  unfold provider at h
  split at h
  · rename_i cached
    cases h
    exact ⟨d, p, valid, cached, rfl⟩
  · have kept := checkModel_registry out (w.registry.modelOf d) w
    split at h
    · cases h
    · rename_i w₂ checked
      rw [checked] at kept
      cases h
      refine ⟨d, _, ?_, ?_, rfl⟩
      · dsimp only [Registry.addProvider]
        rw [kept]
        exact valid
      · dsimp only [Registry.addProvider, Registry.modelOf]
        rw [kept, Table.get?_put, if_pos rfl]

theorem World.along_registeredAgent (role : String) :
    Along R (.modifyGet (World.registeredAgent out role)) := by
  refine along_modifyGet fun w => ?_
  unfold registeredAgent
  split
  · exact hR.refl w
  · split
    · exact hR.refl w
    · rename_i d valid
      have made := along_provider hR (w.registry.modelOf d) none w
      rw [modifyGet_run] at made
      split
      · rename_i e w₁ h
        rw [h] at made
        exact made
      · rename_i p w₁ h
        rw [h] at made
        exact hR.trans made (hR.addAgent w₁ role _ (makes_of_provider valid h))

/-! ## Tools -/

theorem Tool.along_rememberFact (store : StoreId) (args : Value) {context : ToolContext}
    (within : context.Within own) : Along R (rememberFact out store args context) := by
  unfold rememberFact
  split
  · exact along_pure hR.toDrift _
  · rename_i id known
    split
    · exact along_pure hR.toDrift _
    · split
      · exact along_pure hR.toDrift _
      · refine along_bind hR.toDrift (hR.facts _ rfl (within id known)) fun answer => ?_
        split <;> exact along_pure hR.toDrift _

theorem Tool.along_lookUpFact (store : StoreId) (args : Value) {context : ToolContext}
    (within : context.Within own) : Along R (lookUpFact out store args context) := by
  unfold lookUpFact
  split
  · exact along_pure hR.toDrift _
  · rename_i id known
    split
    · refine along_bind hR.toDrift (hR.facts _ rfl (within id known)) fun answer => ?_
      split <;> exact along_pure hR.toDrift _
    · refine along_bind hR.toDrift (hR.facts _ rfl (within id known)) fun answer => ?_
      split <;> exact along_pure hR.toDrift _

theorem Tool.along_delegateTask {carryOut : Registered → String → Run σ Turn}
    (hc : ∀ agent task, Along R (carryOut agent task)) (args : Value) :
    Along R (delegateTask out carryOut args) := by
  unfold delegateTask
  split
  · exact along_pure hR.toDrift _
  · split
    · exact along_pure hR.toDrift _
    · refine along_bind hR.toDrift (World.along_registeredAgent hR _) fun agent => ?_
      split
      · exact along_pure hR.toDrift _
      · exact along_bind hR.toDrift (hc _ _) fun _ => along_pure hR.toDrift _

theorem Tool.along_useWith {carryOut : Registered → String → Run σ Turn}
    (hc : ∀ agent task, Along R (carryOut agent task)) (t : Tool) (args : Value) {context : ToolContext}
    (within : context.Within own) : Along R (useWith out carryOut t args context) := by
  cases t with
  | outside key _ => exact along_bind hR.toDrift (along_ask hR.toDrift fun _ => .callTool _ _ _) (along_await hR.toDrift)
  | requestHandoff directory => exact along_bind hR.toDrift (along_get hR.toDrift) fun _ => along_pure hR.toDrift _
  | endHandoff => exact along_pure hR.toDrift _
  | delegate => exact along_delegateTask hR hc args
  | remember store => exact along_rememberFact hR store args within
  | lookUp store => exact along_lookUpFact hR store args within

/-- The induction is on how many more agents may start to run within each other. Those are in no chat. -/
theorem Tool.along_useAt (depth : Nat) (busy : List Nat) (t : Tool) (args : Value) {context : ToolContext}
    (within : context.Within own) : Along R (useAt out depth busy t args context) := by
  induction depth generalizing busy t args context with
  | zero =>
    unfold useAt
    exact along_useWith hR (fun _ _ => along_stall hR.toDrift) t args within
  | succ depth ih =>
    unfold useAt
    refine along_useWith hR (fun agent task => ?_) t args within
    split
    · exact along_stall hR.toDrift
    · refine along_bind hR.toDrift (fun _ w => hR.setTask w _ _ _) fun _ => ?_
      have alone : ToolContext.Within own ⟨agent.agent.role, none⟩ := by
        intro id known
        cases known
      exact Agent.along_runTurn hR.toDrift (fun t args => ih _ t args alone) _ _ _

theorem Tool.along_use (busy : List Nat) (t : Tool) (args : Value) {context : ToolContext}
    (within : context.Within own) : Along R (use out busy t args context) :=
  along_bind hR.toDrift (along_get hR.toDrift) fun _ => along_useAt hR _ busy t args within

theorem Agent.along_turn (a : Agent) (history : List Content) (prompt : List Part) {context : ToolContext}
    (within : context.Within own) : Along R (a.runTurn out (Tool.use out []) history prompt context) :=
  along_runTurn hR.toDrift (fun t args => Tool.along_use hR [] t args within) a history prompt

end

/-! ## Making a chat -/

theorem Chat.along_build (hR : Drift out R) (config : ChatConfig) (p : Provider) (tools : Toolbox)
    (memory : Adapters) (registry : Bool) : Along R (Chat.build out config p tools memory registry) := by
  unfold Chat.build Chat.make
  refine along_bind hR ?_ fun chat => along_bind hR (along_get hR) fun w => along_pure hR _
  split
  · exact along_bind hR (along_ask hR fun _ => .drawChatId) fun id => along_pure hR _
  · exact along_pure hR _

end

/-! ## What a turn leaves in the chat -/

namespace Chat

variable (out : Outside σ) (deadline : Option Nat) (w : World σ)

theorem record_run (c : Chat) (m : Message) :
    ∃ w₁, c.record out m deadline w = (some { c with history := c.history ++ [m] }, w₁) := by
  unfold record
  rcases c.memory.conversation with _ | store
  · exact ⟨_, rfl⟩
  · rcases c.id with _ | id <;> exact ⟨_, rfl⟩

theorem recordAll_run (c : Chat) (ms : List Message) :
    ∃ w₁, c.recordAll out ms deadline w = (some { c with history := c.history ++ ms }, w₁) := by
  induction ms generalizing c w with
  | nil => exact ⟨w, by rw [List.append_nil]; rfl⟩
  | cons m ms ih =>
    obtain ⟨w₁, h₁⟩ := record_run out deadline w c m
    obtain ⟨w₂, h₂⟩ := ih w₁ { c with history := c.history ++ [m] }
    refine ⟨w₂, ?_⟩
    unfold recordAll
    rw [bind_of_some h₁, h₂, List.append_assoc, List.singleton_append]

variable {out deadline w}

theorem turn_chat {c c' : Chat} {message : String} {t : Turn} {w₁ : World σ}
    (h : c.turn out message deadline w = (some (t, c'), w₁)) :
    c' = { c with history := c.history ++ messagesOf message t.outcome } := by
  unfold turn at h
  obtain ⟨t', w₂, -, h⟩ := bind_eq_some.mp h
  obtain ⟨w₃, hr⟩ := recordAll_run out deadline w₂ c (messagesOf message t'.outcome)
  rw [bind_of_some hr] at h
  cases h
  rfl

end Chat

/-! ## Turns of a chat -/

section
variable {out : Outside σ} {own : ChatId → Prop} {R : World σ → World σ → Prop} (hR : TurnDrift out own R)
include hR

theorem Chat.along_record {c : Chat} (within : ∀ id, c.id = some id → own id) (m : Message) :
    Along R (c.record out m) := by
  unfold Chat.record
  split
  · rename_i id _ known
    exact along_bind hR.toDrift (hR.record _ _ (within _ known)) fun _ => along_pure hR.toDrift _
  · exact along_pure hR.toDrift _

theorem Chat.along_recordAll {c : Chat} (within : ∀ id, c.id = some id → own id) (ms : List Message) :
    Along R (c.recordAll out ms) := by
  intro d w
  induction ms generalizing c w with
  | nil => exact hR.refl w
  | cons m ms ih =>
    have first := along_record hR within m d w
    obtain ⟨w₁, recorded⟩ := record_run out d w c m
    rw [recorded] at first
    rw [recordAll, bind_of_some recorded]
    exact hR.trans first (ih (c := { c with history := c.history ++ [m] }) within w₁)

theorem Chat.along_turn {c : Chat} (within : ∀ id, c.id = some id → own id) (message : String) :
    Along R (c.turn out message) := by
  unfold Chat.turn
  have caller : c.toolContext.Within own := by
    intro id known
    unfold Tool.chat? toolContext at known
    obtain ⟨text, named, parsed⟩ := Option.bind_eq_some_iff.mp known
    obtain ⟨id', has, rfl⟩ := Option.map_eq_some_iff.mp named
    rw [ChatId.ofText?_text] at parsed
    cases parsed
    exact within id has
  refine along_bind hR.toDrift (Agent.along_turn hR.toAgentDrift _ _ _ caller) fun turn => ?_
  exact along_bind hR.toDrift (along_recordAll hR within _) fun _ => along_pure hR.toDrift _

end

end Concierge
