import Concierge.Proofs.Cache
import Concierge.Proofs.Handoff.Session
import Concierge.Proofs.Handoff.Signals
import Concierge.Proofs.Isolation.Service
import Concierge.Proofs.Registry.Calls
import Concierge.Proofs.Rounds

/-!
# Delegated tasks

A task that is delegated is carried out from nothing but its text by the specialist as it is defined at that
moment, whatever agents have done before. What the tool puts out has no signal, so that nothing is routed by it.
-/

namespace Concierge

open Run Handoff

variable {σ : Type}

/-! ## Toolboxes without the tool to delegate -/

namespace Registry

def Unnested (r : Registry) : Prop := ∀ role b, r.toolboxes.get? role = some b → Tool.delegate ∉ b.tools

variable {r r' : Registry}

theorem Unnested.toolsFor (h : r.Unnested) (role name : String) : (r.toolsFor role).get? name ≠ some .delegate := by
  intro has
  have inside := Toolbox.mem_of_get? has
  unfold Registry.toolsFor at inside
  cases found : r.toolboxes.get? role with
  | none =>
    rw [found] at inside
    cases inside
  | some b =>
    rw [found] at inside
    exact h role b found inside

theorem Unnested.steady (h : r.Unnested) (steady : r.Steady r') : r'.Unnested := by
  intro role b found
  rw [steady.toolboxes] at found
  exact h role b found

theorem Unnested.setTools (h : r.Unnested) {role : String} {tools : Toolbox} (without : Tool.delegate ∉ tools.tools) :
    (r.setTools role tools).Unnested := by
  intro role' b found
  simp only [Registry.setTools, Table.get?_put] at found
  split at found
  · cases found
    exact without
  · exact h role' b found

theorem Steady.definition?_eq (h : r.Steady r') (role : String) : r'.definition? role = r.definition? role := by
  unfold definition?
  rw [h.definitions]

theorem validate_of_definition? {role : String} {sp : Specialist} (defined : r.definition? role = some sp) :
    r.validate role = .ok sp := by
  unfold validate
  rw [defined]

end Registry

/-! ## What a specialist is told -/

/-- What a specialist is and is to do, in paragraphs. Those that would be blank are left out. -/
def Specialist.brief (sp : Specialist) : String :=
  "\n\n".intercalate (([("", sp.context), ("Role: ", sp.role), ("Objective: ", sp.objective)].filter
    fun paragraph => !Text.blank paragraph.2).map fun paragraph => paragraph.1 ++ Text.trim paragraph.2)

namespace Registry

/-- The tools of its role are on offer; if there are none then search is, if the specialist may use it. -/
def offered (r : Registry) (sp : Specialist) (listed : Directory → List String) : Option (List ToolOffer) :=
  if ((r.toolboxes.get? sp.role).getD {}).isEmpty then
    if sp.search then some [.search] else none
  else some [.functions (((r.toolboxes.get? sp.role).getD {}).definitions listed)]

/-- What a specialist is first asked with when it is given a task: the task, and nothing before it. -/
def taskRequest (r : Registry) (sp : Specialist) (listed : Directory → List String) (task : String) : Request where
  context := some sp.brief
  history := []
  prompt := [.text task]
  tools := r.offered sp listed

variable {r : Registry} {sp : Specialist} {p : Provider} {a : Agent}

theorem Describes.instructions_eq (h : r.Describes sp p a) : a.instructions = sp.brief := by
  have empty (s : String) : (Text.trim s).isEmpty = Text.blank s := by
    rw [Bool.eq_iff_iff, String.isEmpty_iff, Text.trim_eq_empty_iff]
  unfold Agent.instructions Agent.labelled Specialist.brief
  simp only [h.role, h.objective, h.context, empty]
  cases context : Text.blank sp.context <;> cases role : Text.blank sp.role <;>
    cases objective : Text.blank sp.objective <;> simp [context, role, objective]

theorem Describes.offer_eq (h : r.Describes sp p a) (listed : Directory → List String) :
    a.offer listed = r.offered sp listed := by
  unfold Agent.offer offered
  rw [h.tools, h.search]
  cases ((r.toolboxes.get? sp.role).getD {}).isEmpty <;> rfl

end Registry

/-! ## Worlds that agents share -/

/-- A world whose registry agents have shared: they have asked models and used tools, in sessions and elsewhere, and
were cut off or not; the registry has made providers and agents and was defined anew. No role was ever given the tool
to delegate. -/
inductive World.Shared (out : Outside σ) : World σ → Prop
  | start {w : World σ} (new : w.registry.New) : Shared out w
  | asked {w : World σ} (h : Shared out w) (a : Agent) (r : Request) (deadline : Option Nat) :
      Shared out (a.askModel out r deadline w).2
  | used {w : World σ} (h : Shared out w) (a : Agent) (busy : List Nat) (context : ToolContext) (call : FunctionCall)
      (deadline : Option Nat) : Shared out (a.callTool (Tool.use out busy) context call deadline w).2
  | message {w : World σ} (h : Shared out w) (r : Reception) (id text : String) (deadline : Option Nat) :
      Shared out (r.process out id text deadline w).2
  | provider {w : World σ} (h : Shared out w) (model : String) :
      Shared out { w with registry := (w.registry.addProvider model).2 }
  | agent {w : World σ} (h : Shared out w) {role : String} {a : Agent} (makes : w.registry.Makes role a) :
      Shared out { w with registry := (w.registry.addAgent role a).2 }
  | noted {w : World σ} (h : Shared out w) (role : String) (serial : Nat) (task : String) :
      Shared out { w with registry := w.registry.setTask role serial task }
  | configured {w : World σ} (h : Shared out w) (ds : List Specialist) :
      Shared out { w with registry := w.registry.configure ds }
  | equipped {w : World σ} (h : Shared out w) (role : String) {tools : Toolbox} (without : Tool.delegate ∉ tools.tools) :
      Shared out { w with registry := w.registry.setTools role tools }
  | elsewhere {w w' : World σ} (h : Shared out w) (same : w'.registry = w.registry) : Shared out w'

namespace World

variable {out : Outside σ} {w w' : World σ} {deadline : Option Nat}

structure Flat (w : World σ) : Prop where
  sound : w.registry.Sound
  unnested : w.registry.Unnested

variable (out) in
theorem Flat.run (h : w.Flat) {α : Type} (x : Run σ α) (small : ∀ R, DeskDrift out R → Along R x)
    (deadline : Option Nat) : (x deadline w).2.Flat where
  sound := small _ (sound_deskDrift out) deadline w h.sound
  unnested := h.unnested.steady (small _ (steady_deskDrift out) deadline w)

theorem Shared.flat (h : Shared out w) : w.Flat := by
  -- Whatever agents do is made of small steps, each of which leaves the registry sound and steady.
  induction h with
  | start new =>
    refine ⟨Registry.sound_of_empty new.providers new.agents, fun role b found => ?_⟩
    rw [new.toolboxes] at found
    cases found
  | asked _ a r deadline ih =>
    exact ih.run out (a.askModel out r) (fun R hR => Agent.along_askModel hR.toDrift a r) deadline
  | used _ a busy context call deadline ih =>
    refine ih.run out (a.callTool (Tool.use out busy) context call) (fun R hR => ?_) deadline
    exact Agent.along_callTool hR.toDrift (fun t args => Tool.along_use hR.toAgentDrift busy t args fun _ _ => trivial) a call
  | message _ r id text deadline ih =>
    exact ih.run out (r.process out id text) (fun R hR => Reception.along_process hR r id text) deadline
  | provider _ model ih =>
    exact ⟨ih.sound.addProvider model, ih.unnested.steady (Registry.steady_addProvider _ model)⟩
  | agent _ makes ih => exact ⟨ih.sound.addAgent makes, ih.unnested.steady (Registry.steady_addAgent _ _ _)⟩
  | noted _ role serial task ih =>
    exact ⟨ih.sound.setTask role serial task, ih.unnested.steady (Registry.steady_setTask _ role serial task)⟩
  | configured _ ds ih => exact ⟨Registry.sound_configure _ ds, ih.unnested⟩
  | equipped _ role without ih => exact ⟨ih.sound.setTools role _, ih.unnested.setTools without⟩
  | elsewhere _ same ih =>
    constructor
    · rw [same]
      exact ih.sound
    · rw [same]
      exact ih.unnested

theorem shared_deskDrift (out : Outside σ) : DeskDrift out fun w w' => Shared out w → Shared out w' where
  trans h h' := h' ∘ h
  clock _ _ h := h.elsewhere rfl
  outside _ _ _ h := h.elsewhere rfl
  facts store chat op _ _ := along_modifyGet fun w h => h.elsewhere (access_registry out store chat op w)
  record store chat _ _ := along_modifyGet fun w h => h.elsewhere (access_registry out store chat _ w)
  addProvider _ model h := h.provider model
  addAgent _ _ _ makes h := h.agent makes
  setTask _ role serial task h := h.noted role serial task
  openStores plan := along_modifyGet fun w h => h.elsewhere (openAll_registry plan w)

theorem Shared.hop {d d₁ : Desk} {id message : String} {s s₁ : DeskSession} {ds : List DeskSession.Dispatch}
    {w₀ : World σ} (h : Shared out w) (opens : Desk.Opens out deadline d id w s d₁ w₀)
    (passes : DeskSession.Passes out message deadline s w₀ ds s₁ w') : Shared out w' :=
  passes.along (shared_deskDrift out) (opens.along (shared_deskDrift out) h)

section
variable {a : Agent} {busy : List Nat} {context : ToolContext} {r r' : Request} {es : List Exchange}

theorem Shared.of_asked {answer : Option (Except ModelError Response)} (h : Shared out w)
    (asked : a.askModel out r deadline w = (answer, w')) : Shared out w' := by
  have after := h.asked a r deadline
  rw [asked] at after
  exact after

theorem Shared.of_used {call : FunctionCall} {output : Option ToolOutput} (h : Shared out w)
    (used : a.callTool (Tool.use out busy) context call deadline w = (output, w')) : Shared out w' := by
  have after := h.used a busy context call deadline
  rw [used] at after
  exact after

theorem Shared.rounds (h : Shared out w)
    (rounds : Turn.Rounds (a.askModel out) (a.callTool (Tool.use out busy) context) deadline r w es r' w') :
    Shared out w' := by
  induction rounds with
  | nil => exact h
  | cons round _ ih =>
    cases round with
    | mk asked called _ => exact ih ((h.of_asked asked).of_used called)

end

end World

/-! ## Tools that do not delegate -/

section
variable (out : Outside σ)

theorem Tool.useAt_of_ne {t : Tool} (other : t ≠ .delegate) (depth : Nat) (busy : List Nat) (args : Value)
    (context : ToolContext) (carryOut : Registered → String → Run σ Turn) :
    useAt out depth busy t args context = useWith out carryOut t args context := by
  cases t with
  | delegate => exact absurd rfl other
  | outside | requestHandoff | endHandoff | remember | lookUp => cases depth <;> rfl

theorem Tool.use_of_ne {t : Tool} (other : t ≠ .delegate) (depth : Nat) (busy busy' : List Nat) :
    useAt out depth busy t = use out busy' t := by
  funext args context deadline w
  show useAt out depth busy t args context deadline w = useAt out _ busy' t args context deadline w
  rw [useAt_of_ne out other depth busy args context fun _ _ => stall,
    useAt_of_ne out other _ busy' args context fun _ _ => stall]

theorem Agent.runTurn_congr {use use' : Tool → Value → ToolContext → Run σ (Except ToolError ToolOutput)} {a : Agent}
    (same : ∀ name t, a.tools.get? name = some t → use t = use' t) (history : List Content) (prompt : List Part)
    (context : ToolContext) :
    a.runTurn out use history prompt context = a.runTurn out use' history prompt context := by
  have calls : a.callTool use context = a.callTool use' context := by
    funext call
    unfold callTool Toolbox.execute
    cases known : a.tools.get? call.name with
    | none => rfl
    | some t =>
      dsimp only
      rw [same _ t known]
  unfold runTurn
  rw [calls]

end

/-! ## The tool to delegate -/

namespace Tool

section
variable {out : Outside σ} {args : Value} {role task : String} {busy : List Nat} {context : ToolContext}
  {deadline : Option Nat} {w w₁ : World σ} {carryOut : Registered → String → Run σ Turn}

theorem requiredText_of_hasText {tool key s : String} (has : HasText args key s) : requiredText tool key args = .ok s := by
  unfold requiredText
  rw [textArgument?_eq_some.mpr has]

theorem delegateTask_run (asked : HasText args "specialist_role" role) (told : HasText args "task_description" task) :
    delegateTask out carryOut args deadline w =
      match World.registeredAgent out role w with
      | (.error e, w₁) => (some (.ok (.error e.message)), w₁)
      | (.ok e, w₁) => (do
          let turn ← carryOut e task
          return .ok (delegated role turn.outcome.text) : Run σ (Except ToolError ToolOutput)) deadline w₁ := by
  unfold delegateTask
  rw [requiredText_of_hasText asked, requiredText_of_hasText told]
  dsimp only
  rw [bind_run, modifyGet_run]
  rcases World.registeredAgent out role w with ⟨_ | e, w₁⟩ <;> rfl

theorem delegate_eq (out : Outside σ) (busy : List Nat) (args : Value) (context : ToolContext) (deadline : Option Nat)
    (w : World σ) :
    ∃ carryOut, use out busy .delegate args context deadline w = delegateTask out carryOut args deadline w := by
  show ∃ carryOut, useAt out w.registry.definitions.length busy .delegate args context deadline w = _
  cases w.registry.definitions.length with
  | zero => exact ⟨_, rfl⟩
  | succ depth => exact ⟨_, rfl⟩

theorem delegate_of_refusal {e : RegistryError} (asked : HasText args "specialist_role" role)
    (told : HasText args "task_description" task) (refused : World.registeredAgent out role w = (.error e, w₁)) :
    use out busy .delegate args context deadline w = (some (.ok (.error e.message)), w₁) := by
  obtain ⟨carryOut, eq⟩ := delegate_eq out busy args context deadline w
  rw [eq, delegateTask_run asked told, refused]

theorem delegate_of_agent {e : Registered} (asked : HasText args "specialist_role" role)
    (told : HasText args "task_description" task) (given : World.registeredAgent out role w = (.ok e, w₁))
    (idle : e.serial ∉ busy) (defined : w.registry.definitions ≠ [])
    (without : ∀ name, e.agent.tools.get? name ≠ some .delegate) :
    use out busy .delegate args context deadline w = (do
      let turn ← e.agent.carryOut out (use out []) task
      return .ok (delegated role turn.outcome.text) : Run σ (Except ToolError ToolOutput)) deadline
        { w₁ with registry := w₁.registry.setTask e.agent.role e.serial task } := by
  obtain ⟨depth, bound⟩ := Nat.exists_eq_succ_of_ne_zero (mt List.length_eq_zero_iff.mp defined)
  -- The agent does not delegate in turn, so it does not matter to it which agents are running.
  have plain : e.agent.carryOut out (useAt out depth (e.serial :: busy)) task = e.agent.carryOut out (use out []) task := by
    refine Agent.runTurn_congr out (fun name t known => ?_) _ _ _
    refine use_of_ne out ?_ depth _ _
    rintro rfl
    exact without name known
  show useAt out w.registry.definitions.length busy .delegate args context deadline w = _
  rw [bound]
  show delegateTask out _ args deadline w = _
  rw [delegateTask_run asked told, given]
  dsimp only
  rw [if_neg idle, plain]
  rfl

theorem signal_of_delegate {output : ToolOutput}
    (h : use out busy .delegate args context deadline w = (some (.ok output), w₁)) : output.signal = none := by
  obtain ⟨carryOut, eq⟩ := delegate_eq out busy args context deadline w
  rw [eq] at h
  unfold delegateTask at h
  cases asked : requiredText delegateName "specialist_role" args with
  | error e =>
    rw [asked] at h
    cases h
  | ok role =>
    cases told : requiredText delegateName "task_description" args with
    | error e =>
      rw [asked, told] at h
      cases h
    | ok task =>
      rw [asked, told] at h
      obtain ⟨answer, w₂, -, h⟩ := bind_eq_some.mp h
      cases answer with
      | error e =>
        cases h
        rfl
      | ok e =>
        obtain ⟨turn, w₃, -, h⟩ := bind_eq_some.mp h
        cases h
        unfold delegated
        split <;> rfl

end

end Tool

/-! ## The agent for a task -/

namespace World

variable {out : Outside σ} {w w₁ : World σ} {role : String} {sp : Specialist} {answer : Except RegistryError Registered}

def Beside (w w₁ : World σ) : Prop := w₁.clock = w.clock ∧ w₁.stores = w.stores ∧ w₁.folder = w.folder

theorem beside_registeredAgent (given : registeredAgent out role w = (answer, w₁)) : w.Beside w₁ := by
  rcases agent_cases out role w with ⟨_, -, got, -⟩ | ⟨_, o, got, -⟩ | ⟨d, p, w₂, -, -, made, -, got⟩
  · rw [got] at given
    cases given
    exact ⟨rfl, rfl, rfl⟩
  · rw [got] at given
    cases given
    exact ⟨rfl, rfl, rfl⟩
  · rw [got] at given
    cases given
    rcases provider_cases out (w.registry.modelOf d) w with ⟨_, -, has, -⟩ | ⟨_, _, refused, -⟩ | ⟨o, -, -, new⟩
    · rw [has] at made
      cases made
      exact ⟨rfl, rfl, rfl⟩
    · rw [refused] at made
      cases made
    · rw [new] at made
      cases made
      exact ⟨rfl, rfl, rfl⟩

theorem provider_refused {model : String} {e : RegistryError} (refused : provider out model w = (.error e, w₁)) :
    ∃ cause, checkModel out model w = (.error cause, w₁) ∧ e = .noClient model cause := by
  unfold provider at refused
  split at refused
  · cases refused
  · split at refused
    · rename_i cause w₂ checked
      cases refused
      exact ⟨cause, checked, rfl⟩
    · cases refused

theorem refused_of_defined {e : RegistryError} (defined : w.registry.definition? role = some sp)
    (refused : registeredAgent out role w = (.error e, w₁)) :
    ∃ cause, checkModel out (w.registry.modelOf sp) w = (.error cause, w₁) ∧
      e = .noClient (w.registry.modelOf sp) cause := by
  unfold registeredAgent at refused
  rw [Registry.validate_of_definition? defined] at refused
  split at refused
  · cases refused
  · dsimp only at refused
    split at refused
    · rename_i e' w₂ made
      cases refused
      exact provider_refused made
    · cases refused

theorem Flat.given {e : Registered} (h : w.Flat) (defined : w.registry.definition? role = some sp)
    (given : registeredAgent out role w = (.ok e, w₁)) :
    w.Steady w₁ ∧ ∃ p, p.model = sp.model.getD w.registry.defaultModel ∧ p.backend = w.registry.backend ∧
      w.registry.Describes sp p e.agent := by
  have steady := along_registeredAgent (steady_deskDrift out).toAgentDrift role none w
  have sound := along_registeredAgent (sound_deskDrift out).toAgentDrift role none w h.sound
  -- The agent is kept once it is given, and what is kept is what the definition says.
  rw [modifyGet_run, given] at steady sound
  obtain ⟨d, p, valid, -, model, backend, described⟩ := sound.agents (retains_of_agent given)
  have this : d = sp := by
    rw [Registry.validate_of_definition? ((steady.definition?_eq role).trans defined)] at valid
    exact (Except.ok.inj valid).symm
  subst this
  refine ⟨steady, p, ?_, ?_, described.later (by rw [steady.toolboxes]) steady.limits.symm⟩
  · rw [model, Registry.modelOf, steady.defaultModel]
  · rw [backend, steady.backend]

end World

/-! ## What comes of a task -/

/-- An agent is about to carry out a task: it is the specialist as it is defined, with whatever task was noted of it,
and all that it is asked in any request is the task and what it has done on it. -/
structure Begins (out : Outside σ) (sp : Specialist) (task : String) (deadline : Option Nat) (w w₁ : World σ)
    (a : Agent) : Prop where
  beside : w.Beside w₁
  steady : w.Steady w₁
  agent : ∃ p, p.model = sp.model.getD w.registry.defaultModel ∧ p.backend = w.registry.backend ∧
    w.registry.Describes sp p a
  first : ∃ next : Except ModelError Response → Run σ Turn, a.carryOut out (Tool.use out []) task deadline w₁ =
    (a.askModel out (w.registry.taskRequest sp (Agent.listedRoles out w₁) task) >>= next) deadline w₁
  later : ∀ es r, a.Asks out (Tool.use out []) [] [.text task] ⟨a.role, none⟩ deadline w₁ es r →
    r.context = (w.registry.taskRequest sp (Agent.listedRoles out w₁) task).context ∧
      r.tools = (w.registry.taskRequest sp (Agent.listedRoles out w₁) task).tools ∧
        r.contents = .user [.text task] :: es.flatMap Exchange.shown

inductive Delegated (out : Outside σ) (sp : Specialist) (task : String) (deadline : Option Nat) (w : World σ) :
    Option (Except ToolError ToolOutput) × World σ → Prop
  | refused {cause : ModelError} {w₁ : World σ}
      (failed : World.checkModel out (sp.model.getD w.registry.defaultModel) w = (.error cause, w₁)) :
      Delegated out sp task deadline w
        (some (.ok (.error ("Failed to create model client for '" ++ sp.model.getD w.registry.defaultModel ++ "': " ++
          cause.message))), w₁)
  | cut {a : Agent} {w₁ w₂ : World σ} (begins : Begins out sp task deadline w w₁ a)
      (ran : a.carryOut out (Tool.use out []) task deadline w₁ = (none, w₂)) :
      Delegated out sp task deadline w (none, w₂)
  | answered {a : Agent} {w₁ w₂ : World σ} {turn : Turn} (begins : Begins out sp task deadline w w₁ a)
      (ran : a.carryOut out (Tool.use out []) task deadline w₁ = (some turn, w₂))
      (said : Text.blank turn.outcome.text = false) :
      Delegated out sp task deadline w (some (.ok (.text turn.outcome.text)), w₂)
  | mute {a : Agent} {w₁ w₂ : World σ} {turn : Turn} (begins : Begins out sp task deadline w w₁ a)
      (ran : a.carryOut out (Tool.use out []) task deadline w₁ = (some turn, w₂))
      (nothing : Text.blank turn.outcome.text = true) :
      Delegated out sp task deadline w
        (some (.ok (.error ("Specialist '" ++ sp.role ++ "' completed but produced no text output"))), w₂)

section
variable {out : Outside σ} {w w₁ : World σ} {role task : String} {sp : Specialist} {args : Value}
  {context : ToolContext} {deadline : Option Nat}

theorem Agent.carryOut_asks (out : Outside σ)
    (use : Tool → Value → ToolContext → Run σ (Except ToolError ToolOutput)) (a : Agent) (task : String)
    (deadline : Option Nat) (w : World σ) :
    ∃ next : Except ModelError Response → Run σ Turn, a.carryOut out use task deadline w =
      (a.askModel out (a.firstRequest out w [] [.text task]) >>= next) deadline w := by
  obtain ⟨calls, left⟩ : ∃ n, a.limits.calls = n + 1 :=
    Nat.exists_eq_succ_of_ne_zero (Nat.ne_of_gt (Nat.lt_of_lt_of_le Nat.zero_lt_one (Nat.le_max_left 1 _)))
  unfold carryOut runTurn
  rw [bind_of_some get_run, left]
  unfold Turn.loop
  exact ⟨_, rfl⟩

theorem begins_of_agent {a : Agent} {p : Provider} (steady : w.Steady w₁) (beside : w.Beside w₁)
    (model : p.model = sp.model.getD w.registry.defaultModel) (backend : p.backend = w.registry.backend)
    (described : w.registry.Describes sp p a) : Begins out sp task deadline w w₁ a := by
  have first : a.firstRequest out w₁ [] [.text task] = w.registry.taskRequest sp (Agent.listedRoles out w₁) task := by
    unfold Agent.firstRequest
    rw [described.instructions_eq, described.offer_eq]
    rfl
  refine ⟨beside, steady, ⟨p, model, backend, described⟩, ?_, fun es r asks => ?_⟩
  · rw [← first]
    exact a.carryOut_asks out _ task deadline w₁
  · have contents := asks.contents_eq (by simp)
    obtain ⟨-, _, rounds⟩ := asks
    obtain ⟨instructions, tools⟩ := rounds.frame
    rw [← first]
    exact ⟨instructions, tools, contents⟩

theorem World.Flat.delegated (h : w.Flat) (asked : HasText args "specialist_role" role)
    (told : HasText args "task_description" task) (defined : w.registry.definition? role = some sp) :
    Delegated out sp task deadline w (Tool.use out [] .delegate args context deadline w) := by
  rcases answer : registeredAgent out role w with ⟨error | e, w₁⟩
  · obtain ⟨cause, failed, rfl⟩ := refused_of_defined defined answer
    rw [Tool.delegate_of_refusal asked told answer]
    exact .refused failed
  · obtain ⟨steady, p, model, backend, described⟩ := h.given defined answer
    have defines : w.registry.definitions ≠ [] := by
      intro none
      unfold Registry.definition? at defined
      rw [none] at defined
      cases defined
    have without (name : String) : e.agent.tools.get? name ≠ some .delegate := by
      rw [described.tools]
      exact h.unnested.toolsFor sp.role name
    have role_eq : sp.role = role := Registry.role_of_definition? defined
    have beside : w.Beside w₁ := beside_registeredAgent answer
    have begins : Begins out sp task deadline w
        { w₁ with registry := w₁.registry.setTask e.agent.role e.serial task } e.agent :=
      begins_of_agent (steady.trans (Registry.steady_setTask _ _ _ _)) beside model backend described
    rw [Tool.delegate_of_agent asked told answer List.not_mem_nil defines without, bind_run]
    rcases ran : e.agent.carryOut out (Tool.use out []) task deadline
      { w₁ with registry := w₁.registry.setTask e.agent.role e.serial task } with ⟨_ | turn, w₂⟩
    · exact .cut begins ran
    · dsimp only
      rw [pure_run]
      unfold Tool.delegated
      cases blank : Text.blank turn.outcome.text with
      | true =>
        rw [if_pos rfl, ← role_eq]
        exact .mute begins ran blank
      | false =>
        rw [if_neg Bool.false_ne_true]
        exact .answered begins ran blank

theorem World.Flat.unknown (h : w.Flat) (asked : HasText args "specialist_role" role)
    (told : HasText args "task_description" task) (undefined : w.registry.definition? role = none) :
    Tool.use out [] .delegate args context deadline w =
      (some (.ok (.error (unknownRoleText role w.registry.roles))), w) := by
  have refused : registeredAgent out role w = (.error (.unknownRole role w.registry.roles), w) := by
    have invalid : w.registry.validate role = .error (.unknownRole role w.registry.roles) := by
      unfold Registry.validate
      rw [undefined]
    unfold registeredAgent
    cases cached : w.registry.agents.get? role with
    | some e =>
      -- Only agents of roles that are defined are kept.
      obtain ⟨d, p, valid, -⟩ := h.sound.agents cached
      rw [invalid] at valid
      cases valid
    | none =>
      dsimp only
      rw [invalid]
  exact Tool.delegate_of_refusal asked told refused

end

/-! ## Signals of turns -/

theorem Run.answer_of_within {α : Type} {limit : Option Nat} {x : Run σ α} {a : α} {deadline : Option Nat}
    {w w₁ : World σ} (h : within limit x deadline w = (some (some a), w₁)) : ∃ d, x d w = (some a, w₁) := by
  cases limit with
  | none =>
    rw [within_none] at h
    refine ⟨deadline, ?_⟩
    rcases ran : x deadline w with ⟨_ | b, w₂⟩ <;> rw [ran] at h <;> cases h
    rfl
  | some ms =>
    rw [within_some] at h
    refine ⟨if sooner deadline (w.clock + ms) then deadline else some (w.clock + ms), ?_⟩
    rcases ran : x (if sooner deadline (w.clock + ms) then deadline else some (w.clock + ms)) w with ⟨_ | b, w₂⟩
    · rw [ran] at h
      dsimp only at h
      split at h <;> cases h
    · rw [ran] at h
      cases h
      rfl

section
variable {out : Outside σ} {deadline : Option Nat} {w w₁ : World σ}

theorem Agent.tool_of_signal {a : Agent} {busy : List Nat} {context : ToolContext} {call : FunctionCall}
    {output : ToolOutput} {signal : Signal}
    (used : a.callTool (Tool.use out busy) context call deadline w = (some output, w₁))
    (signals : output.signal = some signal) : ∃ tool, a.tools.get? call.name = some tool ∧ tool ≠ .delegate := by
  have gives := a.callTool_gives (Tool.use out busy) context deadline used
  cases gives with
  | unknown | disowned | failed | late => cases signals
  | answered known used =>
    refine ⟨_, known, ?_⟩
    rintro rfl
    obtain ⟨d, answered⟩ := answer_of_within used
    rw [Tool.signal_of_delegate answered] at signals
    cases signals

theorem Agent.last_tool_of_signal {a : Agent} {busy : List Nat} {history : List Content} {prompt : List Part}
    {context : ToolContext} {t : Turn} {signal : Signal}
    (ran : a.runTurn out (Tool.use out busy) history prompt context deadline w = (some t, w₁))
    (signals : t.outcome.signal = some signal) :
    ∃ e text call tool, t.exchanges.getLast? = some e ∧ e.answer = .ok ⟨text, some call⟩ ∧
      a.tools.get? call.name = some tool ∧ tool ≠ .delegate := by
  have runs := a.runTurn_runs out (Tool.use out busy) history prompt context deadline w
  rw [ran] at runs
  cases runs with
  | spent => cases signals
  | ended rounds left last =>
    cases last with
    | failed | answered => cases signals
    | signalled asked used signalled =>
      obtain ⟨tool, known, other⟩ := tool_of_signal used signalled
      exact ⟨_, _, _, tool, List.getLast?_concat, rfl, known, other⟩

def Turn.OnlyDelegates (t : Turn) (tools : Toolbox) : Prop :=
  ∀ e ∈ t.exchanges, ∀ text call, e.answer = .ok ⟨text, some call⟩ → tools.get? call.name = some .delegate

theorem Chat.signal_of_delegating {c c' : Chat} {text : String} {t : Turn}
    (h : c.turn out text deadline w = (some (t, c'), w₁)) (only : t.OnlyDelegates c.agent.tools) :
    t.outcome.signal = none := by
  unfold turn at h
  obtain ⟨t', w₂, ran, h⟩ := bind_eq_some.mp h
  obtain ⟨c'', w₃, -, same⟩ := bind_eq_some.mp h
  cases same
  cases signals : t.outcome.signal with
  | none => rfl
  | some signal =>
    obtain ⟨e, said, call, tool, last, answer, known, other⟩ := Agent.last_tool_of_signal ran signals
    have delegates := only e (List.mem_of_getLast? last) said call answer
    rw [known] at delegates
    exact absurd (Option.some.inj delegates) other

end

/-! ## Sessions -/

namespace DeskSession

def activeTools (s : DeskSession) : Toolbox :=
  match s.speaker with
  | .coordinator => s.coordinator.agent.tools
  | .specialist role => ((lookupName role s.specialists).map fun c => c.agent.tools).getD {}

/-- A session is routed as before. What waits for the coordinator is told to it when it is addressed. -/
structure SameRoute (s s₁ : DeskSession) : Prop where
  speaker : s₁.speaker = s.speaker
  roles : ∀ role, role ∈ s₁.roles ↔ role ∈ s.roles
  generation : s₁.generation = s.generation
  pending : s₁.pending = match s.speaker with
    | .coordinator => none
    | .specialist _ => s.pending

variable {out : Outside σ} {message : String} {deadline : Option Nat} {s s₁ : DeskSession} {w w₁ : World σ}
  {d : Dispatch}

theorem act_of_delegating (hop : Hop out message deadline s w d s₁ w₁) (only : d.turn.OnlyDelegates s.activeTools) :
    s₁.act out d deadline w₁ = (some (.reply d.turn.outcome.text, d, s₁), w₁) ∧ s.SameRoute s₁ := by
  have plain : d.turn.outcome.signal = none := by
    cases hop with
    | coordinator active taken =>
      unfold activeTools at only
      rw [active] at only
      exact Chat.signal_of_delegating taken only
    | specialist active known taken =>
      unfold activeTools at only
      rw [active] at only
      dsimp only at only
      rw [known] at only
      exact Chat.signal_of_delegating taken only
  constructor
  · unfold act
    dsimp only
    rw [plain]
    rfl
  · refine ⟨hop.speaker_eq, fun role => hop.mem_roles, ?_, ?_⟩
    · cases hop <;> rfl
    · cases hop with
      | coordinator active _ =>
        rw [active]
      | specialist active _ _ =>
        rw [active]

end DeskSession

/-! ## Sealed delegation -/

structure World.Sealed (out : Outside σ) (w : World σ) : Prop where
  unnested : ∀ role e, w.registry.agents.get? role = some e → ∀ name, e.agent.tools.get? name ≠ some .delegate
  runs : ∀ sp args role task context deadline, HasText args "specialist_role" role →
    HasText args "task_description" task → w.registry.definition? role = some sp →
      Delegated out sp task deadline w (Tool.use out [] .delegate args context deadline w)
  unknown : ∀ args role task context deadline, HasText args "specialist_role" role →
    HasText args "task_description" task → w.registry.definition? role = none →
      Tool.use out [] .delegate args context deadline w =
        (some (.ok (.error (unknownRoleText role w.registry.roles))), w)
  plain : ∀ args context deadline output w₁, Tool.use out [] .delegate args context deadline w = (some (.ok output), w₁) →
    output.signal = none
  turns : ∀ (a : Agent) history prompt context deadline t w₁ signal,
    a.runTurn out (Tool.use out []) history prompt context deadline w = (some t, w₁) → t.outcome.signal = some signal →
      ∃ e text call tool, t.exchanges.getLast? = some e ∧ e.answer = .ok ⟨text, some call⟩ ∧
        a.tools.get? call.name = some tool ∧ tool ≠ .delegate
  sessions : ∀ (s s₁ : DeskSession) message deadline d w₁, DeskSession.Hop out message deadline s w d s₁ w₁ →
    d.turn.OnlyDelegates s.activeTools →
      s₁.act out d deadline w₁ = (some (.reply d.turn.outcome.text, d, s₁), w₁) ∧ s.SameRoute s₁
  /-- All this holds in the midst of every turn as well, -/
  rounds : ∀ (a : Agent) busy context deadline r es r' w₁,
    Turn.Rounds (a.askModel out) (a.callTool (Tool.use out busy) context) deadline r w es r' w₁ → Shared out w₁
  /-- and from one agent to the next within a message. -/
  hops : ∀ (d d₁ : Desk) id message deadline s s₁ ds w₀ w₁, Desk.Opens out deadline d id w s d₁ w₀ →
    DeskSession.Passes out message deadline s w₀ ds s₁ w₁ → Shared out w₁

/-- **Delegation is stateless and sealed.** -/
theorem World.delegation_is_sealed {out : Outside σ} {w : World σ} (h : Shared out w) : Sealed out w := by
  have flat := h.flat
  constructor
  case unnested =>
    intro role e found name
    obtain ⟨d, p, -, -, -, -, described⟩ := flat.sound.agents found
    rw [described.tools]
    exact flat.unnested.toolsFor d.role name
  case runs => exact fun _ _ _ _ _ _ asked told defined => flat.delegated asked told defined
  case unknown => exact fun _ _ _ _ _ asked told undefined => flat.unknown asked told undefined
  case plain => exact fun _ _ _ _ _ answered => Tool.signal_of_delegate answered
  case turns => exact fun _ _ _ _ _ _ _ _ ran signals => Agent.last_tool_of_signal ran signals
  case sessions => exact fun _ _ _ _ _ _ hop only => DeskSession.act_of_delegating hop only
  case rounds => exact fun _ _ _ _ _ _ _ _ rounds => h.rounds rounds
  case hops => exact fun _ _ _ _ _ _ _ _ _ _ opens passes => h.hop opens passes

namespace Rehearsal

/-- The model ends the first task with a signal and without a text. Then it repeats all that it is told. -/
def ledger : World Stage where
  outside := {
    models := [("main", .cues [⟨.respond ⟨"", some ⟨"end_sub_conversation", .null⟩⟩, 0⟩, ⟨.echo .transcript, 0⟩])] }

def accountant : Specialist := ⟨"billing", "Explain invoices", "", none, false⟩

def ledgerOf (tools : Toolbox) : World Stage :=
  { ledger with registry := (ledger.registry.configure [accountant]).setTools "billing" tools }

def taskArgs (role task : String) : Value :=
  .ofMembers [("specialist_role", .str role), ("task_description", .str task)]

def secretary : Agent := { clerk with tools := .ofList [.delegate] }

def errand : Option ToolOutput × World Stage :=
  secretary.callTool (Tool.use Stage.outside []) ⟨"secretary", none⟩
    ⟨"delegate_task_to_specialist", taskArgs "billing" "Find the invoice."⟩ none (ledgerOf (.ofList [.endHandoff]))

end Rehearsal

open Rehearsal in
theorem World.delegation_is_sealed_errand :
    errand.2.Shared Stage.outside ∧
      errand.1.map ToolOutput.content = some "Specialist 'billing' completed but produced no text output" ∧
      Delegated Stage.outside accountant "Was it paid?" none errand.2
        (Tool.use Stage.outside [] .delegate (taskArgs "billing" "Was it paid?") ⟨"secretary", none⟩ none errand.2) ∧
      (Tool.use Stage.outside [] .delegate (taskArgs "billing" "Was it paid?") ⟨"secretary", none⟩ none errand.2).1.map
        (fun answer => answer.toOption.map ToolOutput.content) = some (some "Was it paid?") := by
  have fresh : ledger.registry.New := ⟨rfl, rfl, rfl, rfl, rfl⟩
  have without : Tool.delegate ∉ (Toolbox.ofList [.endHandoff]).tools := by
    intro inside
    cases List.mem_singleton.mp inside
  have shared : errand.2.Shared Stage.outside :=
    (((Shared.start fresh).configured [accountant]).equipped "billing" without).used secretary []
      ⟨"secretary", none⟩ ⟨"delegate_task_to_specialist", taskArgs "billing" "Find the invoice."⟩ none
  have asked : HasText (taskArgs "billing" "Was it paid?") "specialist_role" "billing" :=
    textArgument?_eq_some.mp (by decide +kernel)
  have told : HasText (taskArgs "billing" "Was it paid?") "task_description" "Was it paid?" :=
    textArgument?_eq_some.mp (by decide +kernel)
  have defined : errand.2.registry.definition? "billing" = some accountant := by decide +kernel
  have sealed := delegation_is_sealed shared
  exact ⟨shared, by decide +kernel, sealed.runs _ _ _ _ _ _ asked told defined, by decide +kernel⟩

end Concierge
