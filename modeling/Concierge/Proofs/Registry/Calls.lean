import Concierge.Proofs.Cache
import Concierge.Proofs.Handoff.Session
import Concierge.Proofs.Table
import Concierge.Rehearsal.Script

/-!
# What comes of the calls of a registry

Whatever is asked of a registry in whatever order, it goes by the last configuration and the last tools of
each role, and what it has made before is what it would make now. An agent stays the same until a
configuration or new tools drop it, and each provider is created once in a configuration.
-/

namespace Concierge

open Run

variable {σ : Type}

namespace Registry

/-! ## One definition for each role -/

def latest (ds : List Specialist) : Table String Specialist := ds.foldl (fun t d => t.put d.role d) []

theorem latest_eq (ds : List Specialist) : latest ds = Table.collect Specialist.role ds := rfl

theorem find?_values {t : Table String Specialist} (h : ∀ e ∈ t, e.2.role = e.1) (role : String) :
    (t.map (·.2)).find? (·.role = role) = t.get? role := by
  induction t with
  | nil => rfl
  | cons e t ih =>
    simp only [List.forall_mem_cons] at h
    rw [List.map_cons, List.find?_cons, h.1, ih h.2,
      show Table.get? role (e :: t) = if e.1 = role then some e.2 else Table.get? role t from rfl]
    by_cases same : e.1 = role <;> simp [same]

section
variable {r : Registry} {ds : List Specialist} (h : r.definitions = distinct ds)
include h

theorem definition?_eq (role : String) : r.definition? role = (ds.filter (·.role = role)).getLast? := by
  unfold definition?
  rw [h, ← Table.get?_collect]
  exact find?_values (Table.key_of_mem_collect ds) role

theorem roles_eq : r.roles = (latest ds).keys := by
  unfold roles
  rw [h]
  unfold distinct Table.keys
  rw [List.map_map]
  exact List.map_congr_left (Table.key_of_mem_collect ds)

end

/-! ## The calls -/

inductive Call where
  | configure (ds : List Specialist)
  | setTools (role : String) (tools : Toolbox)
  | provider (model : String) (answer : Except RegistryError Provider)
  | agent (role : String) (answer : Except RegistryError Registered)

namespace Call

def changes : Call → Bool
  | configure _ | setTools .. => true
  | provider .. | agent .. => false

def drops (role : String) : Call → Bool
  | configure _ => true
  | setTools role' _ => role' = role
  | provider .. | agent .. => false

def configured (ds : List Specialist) : List Call → List Specialist
  | [] => ds
  | configure ds' :: calls => configured ds' calls
  | _ :: calls => configured ds calls

def equipped (role : String) (tools : Option Toolbox) : List Call → Option Toolbox
  | [] => tools
  | setTools role' tools' :: calls => equipped role (if role = role' then some tools' else tools) calls
  | _ :: calls => equipped role tools calls

end Call

end Registry

def Outside.LogsModels (out : Outside σ) (log : σ → List String) : Prop :=
  ∀ model s, log (out.createModel model s).2 = match (out.createModel model s).1 with
    | .ok _ => log s ++ [model]
    | .error _ => log s

namespace World

variable (out : Outside σ)

def created (model : String) (w : World σ) : List String :=
  if (w.registry.providers.get? model).isSome then []
  else match (checkModel out model w).1 with
    | .ok _ => [model]
    | .error _ => []

def createdFor (role : String) (w : World σ) : List String :=
  if (w.registry.agents.get? role).isSome then []
  else match w.registry.validate role with
    | .ok d => created out (w.registry.modelOf d) w
    | .error _ => []

/-- A call takes one world to another. `made` lists the models for which the factory has made a provider
since the last configuration. -/
inductive Calls : World σ → List String → Registry.Call → World σ → List String → Prop
  | configure (w : World σ) (made : List String) (ds : List Specialist) :
      Calls w made (.configure ds) { w with registry := w.registry.configure ds } []
  | setTools (w : World σ) (made : List String) (role : String) (tools : Toolbox) :
      Calls w made (.setTools role tools) { w with registry := w.registry.setTools role tools } made
  | provider {w w' : World σ} {model : String} {answer : Except RegistryError Provider} (made : List String)
      (done : provider out model w = (answer, w')) :
      Calls w made (.provider model answer) w' (made ++ created out model w)
  | agent {w w' : World σ} {role : String} {answer : Except RegistryError Registered} (made : List String)
      (done : registeredAgent out role w = (answer, w')) :
      Calls w made (.agent role answer) w' (made ++ createdFor out role w)

/-- Call after call. In between tasks are noted of agents, and anything may happen but to the registry. -/
inductive Steps : World σ → List String → List Registry.Call → World σ → List String → Prop
  | nil {w : World σ} {made : List String} : Steps w made [] w made
  | call {w w₁ w' : World σ} {made made₁ made' : List String} {call : Registry.Call}
      {calls : List Registry.Call} (first : Calls out w made call w₁ made₁)
      (rest : Steps w₁ made₁ calls w' made') : Steps w made (call :: calls) w' made'
  | noted {w w' : World σ} {made made' : List String} {calls : List Registry.Call} (role : String)
      (serial : Nat) (task : String)
      (rest : Steps { w with registry := w.registry.setTask role serial task } made calls w' made') :
      Steps w made calls w' made'
  | elsewhere {w w₁ w' : World σ} {made made' : List String} {calls : List Registry.Call}
      (same : w₁.registry = w.registry) (rest : Steps w₁ made calls w' made') : Steps w made calls w' made'

variable {out} {w w₁ w' : World σ} {made made' : List String} {call : Registry.Call}
  {calls before after : List Registry.Call} {role : String}

theorem Steps.at_call (h : Steps out w made (before ++ call :: after) w' made') :
    ∃ w₁ made₁ w₂ made₂, Steps out w made before w₁ made₁ ∧ Calls out w₁ made₁ call w₂ made₂ ∧
      Steps out w₂ made₂ after w' made' := by
  generalize whole : before ++ call :: after = calls at h
  induction h generalizing before with
  | nil => simp at whole
  | call first rest ih =>
    cases before with
    | nil =>
      cases whole
      exact ⟨_, _, _, _, .nil, first, rest⟩
    | cons c before =>
      rw [List.cons_append] at whole
      cases whole
      obtain ⟨w₁, made₁, w₂, made₂, front, called, back⟩ := ih rfl
      exact ⟨w₁, made₁, w₂, made₂, .call first front, called, back⟩
  | noted role serial task _ ih =>
    obtain ⟨w₁, made₁, w₂, made₂, front, called, back⟩ := ih whole
    exact ⟨w₁, made₁, w₂, made₂, .noted role serial task front, called, back⟩
  | elsewhere same _ ih =>
    obtain ⟨w₁, made₁, w₂, made₂, front, called, back⟩ := ih whole
    exact ⟨w₁, made₁, w₂, made₂, .elsewhere same front, called, back⟩

/-! ## What a call can do -/

variable (out) in
theorem checkModel_eq (model : String) (w : World σ) :
    ∃ o, (checkModel out model w).2 = { w with outside := o } := by
  unfold checkModel
  split
  · exact ⟨_, rfl⟩
  · exact ⟨w.outside, rfl⟩

variable (out) in
theorem provider_cases (model : String) (w : World σ) :
    (∃ p, w.registry.providers.get? model = some p ∧ provider out model w = (.ok p, w) ∧
      created out model w = []) ∨
    (∃ e o, provider out model w = (.error e, { w with outside := o }) ∧ created out model w = []) ∨
    ∃ o, w.registry.providers.get? model = none ∧ created out model w = [model] ∧
      provider out model w = (.ok (w.registry.addProvider model).1,
        { w with outside := o, registry := (w.registry.addProvider model).2 }) := by
  obtain ⟨o, checked⟩ := checkModel_eq out model w
  unfold provider created
  cases cached : w.registry.providers.get? model with
  | some p => exact .inl ⟨p, rfl, rfl, by simp⟩
  | none =>
    rcases answer : checkModel out model w with ⟨e | _, w₁⟩ <;> rw [answer] at checked <;> cases checked
    · exact .inr (.inl ⟨_, o, rfl, by simp⟩)
    · exact .inr (.inr ⟨o, rfl, by simp, rfl⟩)

variable (out) in
theorem agent_cases (role : String) (w : World σ) :
    (∃ e, w.registry.agents.get? role = some e ∧ registeredAgent out role w = (.ok e, w) ∧
      createdFor out role w = []) ∨
    (∃ e o, registeredAgent out role w = (.error e, { w with outside := o }) ∧ createdFor out role w = []) ∨
    ∃ d p w₁, w.registry.agents.get? role = none ∧ w.registry.validate role = .ok d ∧
      provider out (w.registry.modelOf d) w = (.ok p, w₁) ∧
      createdFor out role w = created out (w.registry.modelOf d) w ∧
      registeredAgent out role w = (.ok (w₁.registry.addAgent role (w₁.registry.agentFor d p)).1,
        { w₁ with registry := (w₁.registry.addAgent role (w₁.registry.agentFor d p)).2 }) := by
  unfold registeredAgent createdFor
  cases cached : w.registry.agents.get? role with
  | some e => exact .inl ⟨e, rfl, rfl, by simp⟩
  | none =>
    cases valid : w.registry.validate role with
    | error e => exact .inr (.inl ⟨e, w.outside, rfl, by simp⟩)
    | ok d =>
      rcases provider_cases out (w.registry.modelOf d) w with ⟨p, -, got, none⟩ | ⟨e, o, got, none⟩ | ⟨o, -, one, got⟩
      · exact .inr (.inr ⟨d, p, w, rfl, rfl, got, by simp, by simp [got]⟩)
      · exact .inr (.inl ⟨e, o, by simp [got], by simp [none]⟩)
      · exact .inr (.inr ⟨d, _, _, rfl, rfl, got, by simp, by simp [got]⟩)

theorem unchanged_of_provider {model : String} {e : RegistryError}
    (failed : provider out model w = (.error e, w')) : w' = { w with outside := w'.outside } := by
  rcases provider_cases out model w with ⟨_, -, got, -⟩ | ⟨_, o, got, -⟩ | ⟨_, -, -, got⟩ <;>
    rw [got] at failed <;> cases failed
  rfl

theorem unchanged_of_agent {e : RegistryError} (failed : registeredAgent out role w = (.error e, w')) :
    w' = { w with outside := w'.outside } := by
  rcases agent_cases out role w with ⟨_, -, got, -⟩ | ⟨_, o, got, -⟩ | ⟨_, _, _, -, -, -, -, got⟩ <;>
    rw [got] at failed <;> cases failed
  rfl

section
variable {log : σ → List String} (logs : out.LogsModels log) (isOutside : w.registry.backend = .outside)
include logs isOutside

theorem log_provider (model : String) :
    log (provider out model w).2.outside = log w.outside ++ created out model w := by
  have one := logs model w.outside
  unfold provider created checkModel
  rw [isOutside]
  cases w.registry.providers.get? model with
  | some p => simp
  | none => rcases answer : out.createModel model w.outside with ⟨_ | _, o⟩ <;> simpa [answer] using one

theorem log_agent (role : String) :
    log (registeredAgent out role w).2.outside = log w.outside ++ createdFor out role w := by
  unfold registeredAgent createdFor
  cases w.registry.agents.get? role with
  | some e => simp
  | none =>
    cases w.registry.validate role with
    | error e => simp
    | ok d =>
      have one := log_provider logs isOutside (w.registry.modelOf d)
      rcases answer : provider out (w.registry.modelOf d) w with ⟨_ | _, w₁⟩ <;> simpa [answer] using one

end

end World

/-! ## What lasts from call to call -/

/-- A property of a registry, and of the models for which providers were made, that lasts while providers
and agents are made and tasks are noted. -/
structure Registry.Lasts (P : Registry → List String → Prop) : Prop where
  addProvider : ∀ {r : Registry} {made : List String} (model : String), P r made →
    r.providers.get? model = none → P (r.addProvider model).2 (made ++ [model])
  addAgent : ∀ {r : Registry} {made : List String} {role : String} {a : Agent}, P r made →
    r.agents.get? role = none → r.Makes role a → P (r.addAgent role a).2 made
  setTask : ∀ {r : Registry} {made : List String} (role : String) (serial : Nat) (task : String), P r made →
    P (r.setTask role serial task) made

namespace Registry.Lasts

open World

variable {P : Registry → List String → Prop} (lasts : Registry.Lasts P) {out : Outside σ} {w w' : World σ}
  (made : List String) {made' : List String} {calls : List Registry.Call} {role model : String}
include lasts

theorem provider {answer : Except RegistryError Provider} (h : P w.registry made)
    (done : World.provider out model w = (answer, w')) : P w'.registry (made ++ created out model w) := by
  rcases provider_cases out model w with ⟨p, -, got, none⟩ | ⟨e, o, got, none⟩ | ⟨o, new, one, got⟩ <;>
    rw [got] at done <;> cases done
  · rw [none, List.append_nil]
    exact h
  · rw [none, List.append_nil]
    exact h
  · rw [one]
    exact lasts.addProvider model h new

theorem agent {answer : Except RegistryError Registered} (h : P w.registry made)
    (done : registeredAgent out role w = (answer, w')) : P w'.registry (made ++ createdFor out role w) := by
  rcases agent_cases out role w with ⟨e, -, got, none⟩ | ⟨e, o, got, none⟩ | ⟨d, p, w₁, new, valid, served, same, got⟩ <;>
    rw [got] at done <;> cases done
  · rw [none, List.append_nil]
    exact h
  · rw [none, List.append_nil]
    exact h
  · rw [same]
    refine lasts.addAgent (lasts.provider made h served) ?_ (makes_of_provider valid served)
    rcases provider_cases out (w.registry.modelOf d) w with ⟨_, -, got, -⟩ | ⟨_, _, got, -⟩ | ⟨_, -, -, got⟩ <;>
      rw [got] at served <;> cases served
    · exact new
    · exact new

variable {made}

theorem steps (h : Steps out w made calls w' made')
    (configure : ∀ {r made ds}, .configure ds ∈ calls → P r made → P (r.configure ds) [])
    (setTools : ∀ {r made role tools}, .setTools role tools ∈ calls → P r made → P (r.setTools role tools) made)
    (start : P w.registry made) : P w'.registry made' := by
  induction h with
  | nil => exact start
  | call first _ ih =>
    refine ih (fun mem => configure (List.mem_cons_of_mem _ mem)) (fun mem => setTools (List.mem_cons_of_mem _ mem)) ?_
    cases first with
    | configure _ _ => exact configure List.mem_cons_self start
    | setTools _ _ _ => exact setTools List.mem_cons_self start
    | provider _ done => exact lasts.provider _ start done
    | agent _ done => exact lasts.agent _ start done
  | noted role serial task _ ih => exact ih configure setTools (lasts.setTask role serial task start)
  | elsewhere same _ ih =>
    refine ih configure setTools ?_
    rw [same]
    exact start

end Registry.Lasts

namespace Registry

theorem lasts_steady (r₀ : Registry) : Lasts fun r _ => r₀.Steady r where
  addProvider model h _ := h.trans (steady_addProvider _ model)
  addAgent h _ _ := h.trans (steady_addAgent _ _ _)
  setTask role serial task h := h.trans (steady_setTask _ role serial task)

theorem made_setTask (r : Registry) (role : String) (serial : Nat) (task : String) :
    (r.setTask role serial task).made = r.made := by
  unfold setTask
  split
  · split <;> rfl
  · rfl

/-! ### What is kept is what would be made now -/

/-- The agent is the one that would be made now with the provider that is kept, apart from its task. -/
def Current (r : Registry) (role : String) (a : Agent) : Prop :=
  ∃ sp p, r.definition? role = some sp ∧ r.providers.get? (sp.model.getD r.defaultModel) = some p ∧
    r.Describes sp p a

structure Stocked (r : Registry) (made : List String) : Prop where
  genuine : r.Genuine
  agents : ∀ {role e}, r.agents.get? role = some e → r.Current role e.agent
  below : ∀ {role e}, r.agents.get? role = some e → e.serial < r.made
  supplied : ∀ model, model ∈ made ↔ (r.providers.get? model).isSome = true
  once : made.Nodup

section
variable {r r' : Registry} {made : List String} {role : String} {a : Agent}

theorem definition?_of_validate {d : Specialist} (valid : r.validate role = .ok d) : r.definition? role = some d := by
  unfold validate at valid
  split at valid
  · rename_i found
    cases valid
    exact found
  · cases valid

theorem role_of_definition? {sp : Specialist} (defined : r.definition? role = some sp) : sp.role = role := by
  have named := List.find?_some defined
  rwa [decide_eq_true_eq] at named

theorem Current.later (h : r.Current role a) (definitions : r'.definitions = r.definitions)
    (defaultModel : r'.defaultModel = r.defaultModel) (limits : r'.limits = r.limits)
    (tools : r'.toolboxes.get? role = r.toolboxes.get? role)
    (kept : ∀ model p, r.providers.get? model = some p → r'.providers.get? model = some p) :
    r'.Current role a := by
  obtain ⟨sp, p, defined, cached, described⟩ := h
  refine ⟨sp, p, ?_, ?_, described.later ?_ limits⟩
  · unfold definition? at defined ⊢
    rw [definitions]
    exact defined
  · rw [defaultModel]
    exact kept _ _ cached
  · rw [role_of_definition? defined]
    exact tools

theorem stocked_of_empty (providers : r.providers = []) (agents : r.agents = []) : r.Stocked [] := by
  refine ⟨genuine_of_empty providers, ?_, ?_, ?_, List.nodup_nil⟩ <;> simp [providers, agents, Table.get?]

theorem Makes.current (h : r.Makes role a) : r.Current role a := by
  obtain ⟨d, p, valid, cached, rfl⟩ := h
  exact ⟨d, p, definition?_of_validate valid, cached, r.describes_agentFor d p⟩

theorem lasts_stocked : Lasts Stocked where
  addProvider {r made} model h new := by
    have fresh : model ∉ made := by simp [h.supplied, new]
    refine ⟨h.genuine.addProvider model, fun {role e} found => ?_, fun {role e} found => ?_, fun other => ?_, ?_⟩
    · refine (h.agents found).later rfl rfl rfl rfl fun other p kept => ?_
      simp only [Registry.addProvider, Table.get?_put]
      split
      · rename_i same
        rw [same, new] at kept
        cases kept
      · exact kept
    · exact Nat.lt_succ_of_lt (h.below found)
    · simp only [Registry.addProvider, Table.get?_put, List.mem_append, List.mem_singleton, h.supplied]
      by_cases same : other = model <;> simp [same]
    · exact List.nodup_append.mpr ⟨h.once, List.pairwise_singleton _ _, fun a ha b hb => by
        rw [List.mem_singleton.mp hb]
        rintro rfl
        exact fresh ha⟩
  addAgent {r made role a} h _ makes := by
    refine ⟨h.genuine, fun {role' e} found => ?_, fun {role' e} found => ?_, h.supplied, h.once⟩ <;>
      simp only [Registry.addAgent, Table.get?_put] at found <;> split at found
    · rename_i same
      cases found
      rw [same]
      exact makes.current.later rfl rfl rfl rfl fun _ _ => id
    · exact (h.agents found).later rfl rfl rfl rfl fun _ _ => id
    · cases found
      exact Nat.lt_succ_self _
    · exact Nat.lt_succ_of_lt (h.below found)
  setTask {r made} role serial task h := by
    have steady := r.steady_setTask role serial task
    have providers := r.providers_setTask role serial task
    refine ⟨h.genuine.setTask role serial task, fun {role' e} found => ?_, fun {role' e} found => ?_, ?_, h.once⟩
    · obtain ⟨e₀, task', held, rfl⟩ := Sound.get?_setTask found
      obtain ⟨sp, p, defined, cached, described⟩ := h.agents held
      have current : r.Current role' { e₀.agent with task := task' } := ⟨sp, p, defined, cached, described.noted task'⟩
      refine current.later steady.definitions steady.defaultModel steady.limits ?_ fun model p => ?_
      · rw [steady.toolboxes]
      · rw [providers]
        exact id
    · obtain ⟨e₀, task', held, rfl⟩ := Sound.get?_setTask found
      rw [made_setTask]
      have less := h.below held
      exact less
    · rw [providers]
      exact h.supplied

theorem Stocked.setTools (h : r.Stocked made) (role : String) (tools : Toolbox) :
    (r.setTools role tools).Stocked made := by
  have entry {role' : String} {e : Registered} (found : (r.setTools role tools).agents.get? role' = some e) :
      role' ≠ role ∧ r.agents.get? role' = some e := by
    simp only [Registry.setTools, Table.get?_erase] at found
    split at found
    · cases found
    · exact ⟨‹_›, found⟩
  refine ⟨h.genuine, fun {role' e} found => ?_, fun {role' e} found => h.below (entry found).2, h.supplied, h.once⟩
  obtain ⟨other, held⟩ := entry found
  refine (h.agents held).later rfl rfl rfl ?_ fun _ _ => id
  simp only [Registry.setTools, Table.get?_put, other, if_false]

end

/-! ### Which agent it is -/

def Retains (role : String) (e : Registered) (r : Registry) : Prop :=
  ∃ task, r.agents.get? role = some ⟨e.serial, { e.agent with task := task }⟩

theorem lasts_retains (role : String) (e : Registered) : Lasts fun r _ => r.Retains role e where
  addProvider _ h _ := h
  addAgent {r made role' a} h new _ := by
    obtain ⟨task, kept⟩ := h
    refine ⟨task, ?_⟩
    simp only [Registry.addAgent, Table.get?_put]
    split
    · rename_i same
      rw [← same, kept] at new
      cases new
    · exact kept
  setTask {r made} role' serial task h := by
    obtain ⟨task₀, kept⟩ := h
    unfold setTask
    split
    · split
      · unfold Retains
        simp only [Table.get?_put]
        by_cases same : role = role'
        · rename_i held _
          rw [← same, kept] at held
          cases held
          exact ⟨some task, if_pos same⟩
        · exact ⟨task₀, (if_neg same).trans kept⟩
      · exact ⟨task₀, kept⟩
    · exact ⟨task₀, kept⟩

def Renewed (n : Nat) (role : String) (r : Registry) : Prop :=
  n ≤ r.made ∧ ∀ e, r.agents.get? role = some e → n ≤ e.serial

theorem lasts_made (n : Nat) : Lasts fun r _ => n ≤ r.made where
  addProvider _ h _ := Nat.le_succ_of_le h
  addAgent h _ _ := Nat.le_succ_of_le h
  setTask role serial task h := by rwa [made_setTask]

theorem lasts_renewed (n : Nat) (role : String) : Lasts fun r _ => r.Renewed n role where
  addProvider _ h _ := ⟨Nat.le_succ_of_le h.1, h.2⟩
  addAgent {r made role' a} h _ _ := by
    refine ⟨Nat.le_succ_of_le h.1, fun e found => ?_⟩
    simp only [Registry.addAgent, Table.get?_put] at found
    split at found
    · cases found
      exact h.1
    · exact h.2 e found
  setTask role' serial task h := by
    refine ⟨by rw [made_setTask]; exact h.1, fun e found => ?_⟩
    obtain ⟨e₀, task', held, rfl⟩ := Sound.get?_setTask found
    exact h.2 e₀ held

structure New (r : Registry) : Prop where
  definitions : r.definitions = []
  toolboxes : r.toolboxes = []
  providers : r.providers = []
  agents : r.agents = []
  generation : r.generation = 0

end Registry

namespace World

open Registry

section
variable {out : Outside σ} {w w' : World σ} {made made' : List String} {calls before after : List Registry.Call}
  {role : String}

theorem Steps.stocked (h : Steps out w made calls w' made') (start : w.registry.Stocked made) :
    w'.registry.Stocked made' :=
  lasts_stocked.steps h (fun _ _ => stocked_of_empty rfl rfl) (fun _ held => held.setTools _ _) start

theorem steady_of_calls {call : Registry.Call} (h : Calls out w made call w' made')
    (asks : call.changes = false) : w.registry.Steady w'.registry := by
  cases h with
  | configure _ _ => cases asks
  | setTools _ _ _ => cases asks
  | provider made done => exact (lasts_steady w.registry).provider made (.refl _) done
  | agent made done => exact (lasts_steady w.registry).agent made (.refl _) done

theorem Steps.definitions {ds : List Specialist} (h : Steps out w made calls w' made')
    (start : w.registry.definitions = distinct ds) : w'.registry.definitions = distinct (Call.configured ds calls) := by
  induction h generalizing ds with
  | nil => exact start
  | call first _ ih =>
    cases first with
    | configure _ ds' => exact ih rfl
    | setTools _ _ _ => exact ih start
    | provider made done => exact ih ((steady_of_calls (.provider made done) rfl).definitions.trans start)
    | agent made done => exact ih ((steady_of_calls (.agent made done) rfl).definitions.trans start)
  | noted role serial task _ ih => exact ih ((steady_setTask _ role serial task).definitions.trans start)
  | elsewhere same _ ih => exact ih (same ▸ start)

theorem Steps.toolboxes {tools : Option Toolbox} (h : Steps out w made calls w' made')
    (start : w.registry.toolboxes.get? role = tools) :
    w'.registry.toolboxes.get? role = Call.equipped role tools calls := by
  induction h generalizing tools with
  | nil => exact start
  | call first _ ih =>
    cases first with
    | configure _ _ => exact ih start
    | setTools _ role' tools' =>
      refine ih ?_
      simp only [setTools, Table.get?_put, start]
    | provider made done => exact ih (by rw [(steady_of_calls (.provider made done) rfl).toolboxes, start])
    | agent made done => exact ih (by rw [(steady_of_calls (.agent made done) rfl).toolboxes, start])
  | noted role serial task _ ih => exact ih (by rw [(steady_setTask _ role serial task).toolboxes, start])
  | elsewhere same _ ih => exact ih (by rw [same, start])

theorem Steps.generation (h : Steps out w made calls w' made') :
    w'.registry.generation = w.registry.generation + calls.countP Call.changes := by
  induction h with
  | nil => rfl
  | call first _ ih =>
    rw [ih, List.countP_cons]
    cases first with
    | configure _ _ => simp only [Registry.configure, Call.changes, if_true]; omega
    | setTools _ _ _ => simp only [Registry.setTools, Call.changes, if_true]; omega
    | provider made done => rw [(steady_of_calls (.provider made done) rfl).generation]; rfl
    | agent made done => rw [(steady_of_calls (.agent made done) rfl).generation]; rfl
  | noted role serial task _ ih => rw [ih, (steady_setTask _ role serial task).generation]
  | elsewhere same _ ih => rw [ih, same]

theorem retains_of_agent {e : Registered} (done : registeredAgent out role w = (.ok e, w')) :
    w'.registry.agents.get? role = some e := by
  rcases agent_cases out role w with ⟨_, has, got, -⟩ | ⟨_, _, got, -⟩ | ⟨d, p, w₁, -, -, -, -, got⟩ <;>
    rw [got] at done <;> cases done
  · exact has
  · simp only [Registry.addAgent, Table.get?_put, if_true]

theorem Steps.retains {e : Registered} (h : Steps out w made calls w' made')
    (still : ∀ c ∈ calls, c.drops role = false) (start : w.registry.Retains role e) : w'.registry.Retains role e := by
  refine (lasts_retains role e).steps h (fun mem _ => ?_) (fun {r _ role' tools} mem held => ?_) start
  · cases still _ mem
  · obtain ⟨task, kept⟩ := held
    have other : role ≠ role' := fun same => by simpa [Call.drops, same] using still _ mem
    refine ⟨task, ?_⟩
    simp only [Registry.setTools, Table.get?_erase, other, if_false]
    exact kept

theorem Steps.made_le {n : Nat} (h : Steps out w made calls w' made') (start : n ≤ w.registry.made) :
    n ≤ w'.registry.made :=
  (lasts_made n).steps h (fun _ le => le) (fun _ le => le) start

theorem renewed_configure {n : Nat} {r : Registry} (ds : List Specialist) (le : n ≤ r.made) :
    (r.configure ds).Renewed n role := ⟨le, fun _ found => by cases found⟩

theorem Renewed.setTools {n : Nat} {r : Registry} (h : r.Renewed n role) (role' : String) (tools : Toolbox) :
    (r.setTools role' tools).Renewed n role := by
  refine ⟨h.1, fun e found => ?_⟩
  simp only [Registry.setTools, Table.get?_erase] at found
  split at found
  · cases found
  · exact h.2 e found

theorem Steps.renewed {n : Nat} (h : Steps out w made calls w' made') (start : w.registry.Renewed n role) :
    w'.registry.Renewed n role :=
  (lasts_renewed n role).steps h (fun _ held => renewed_configure _ held.1) (fun _ held => Renewed.setTools held _ _) start

theorem Steps.renewed_of_drop {n : Nat} {c : Registry.Call} (h : Steps out w made calls w' made')
    (le : n ≤ w.registry.made) (mem : c ∈ calls) (drops : c.drops role = true) : w'.registry.Renewed n role := by
  obtain ⟨before, after, rfl⟩ := List.append_of_mem mem
  obtain ⟨w₁, made₁, w₂, made₂, front, dropped, back⟩ := h.at_call
  have le₁ := front.made_le le
  -- It is enough that the agent is not there right after the call that drops it.
  refine back.renewed ?_
  cases dropped with
  | configure _ ds => exact renewed_configure ds le₁
  | setTools _ role' tools =>
    have same : role' = role := by simpa [Call.drops] using drops
    refine ⟨le₁, fun e found => ?_⟩
    simp [Registry.setTools, Table.get?_erase, same] at found
  | provider _ _ => cases drops
  | agent _ _ => cases drops

end

/-! ## Coherence -/

/-- A registry of which these calls were made. `made` lists the models for which the factory has made a
provider since the last configuration. -/
structure Abides (out : Outside σ) (calls : List Registry.Call) (made : List String) (w : World σ) : Prop where
  /-- The known roles are those of the last configuration, in the order in which they first occur there. -/
  ordered : w.registry.roles.Pairwise fun a b =>
    ((Call.configured [] calls).map Specialist.role).idxOf a < ((Call.configured [] calls).map Specialist.role).idxOf b
  known : ∀ role, role ∈ w.registry.roles ↔ role ∈ (Call.configured [] calls).map Specialist.role
  defined : ∀ role, w.registry.definition? role = ((Call.configured [] calls).filter (·.role = role)).getLast?
  tools : ∀ role, w.registry.toolsFor role = (Call.equipped role none calls).getD {}
  cached : ∀ role e, w.registry.agents.get? role = some e →
    role ∈ w.registry.roles ∧ w.registry.Current role e.agent
  given : ∀ role e w', registeredAgent out role w = (.ok e, w') →
    w'.registry.agents.get? role = some e ∧ role ∈ w'.registry.roles ∧ w'.registry.Current role e.agent
  /-- An agent is given again until it is dropped; then it is another one. -/
  again : ∀ before role e after, calls = before ++ .agent role (.ok e) :: after →
    (∀ c ∈ after, c.drops role = false) →
      ∃ task, registeredAgent out role w = (.ok ⟨e.serial, { e.agent with task := task }⟩, w)
  another : ∀ before role e after, calls = before ++ .agent role (.ok e) :: after →
    (∃ c ∈ after, c.drops role = true) →
      ∀ e' w', registeredAgent out role w = (.ok e', w') → e'.serial ≠ e.serial
  once : made.Nodup
  supplied : ∀ model, model ∈ made ↔ (w.registry.providers.get? model).isSome = true
  /-- What counts as made is what a factory outside is seen to make. -/
  counted : ∀ log, out.LogsModels log → w.registry.backend = .outside →
    (∀ model, log (provider out model w).2.outside = log w.outside ++ created out model w) ∧
      ∀ role, log (registeredAgent out role w).2.outside = log w.outside ++ createdFor out role w
  generation : w.registry.generation = calls.countP Call.changes
  /-- A call that fails may have asked the factory and has changed nothing else. -/
  refused : ∀ model e w', provider out model w = (.error e, w') → w' = { w with outside := w'.outside }
  unavailable : ∀ role e w', registeredAgent out role w = (.error e, w') → w' = { w with outside := w'.outside }

section
variable {out : Outside σ} {w₀ w : World σ} {made : List String} {calls : List Registry.Call}

theorem mem_roles_of_current {r : Registry} {role : String} {a : Agent} (h : r.Current role a) : role ∈ r.roles := by
  obtain ⟨sp, -, defined, -⟩ := h
  exact List.mem_map.mpr ⟨sp, List.mem_of_find?_eq_some defined, role_of_definition? defined⟩

/-- **The caches of a registry are coherent.** Whatever sequence of configurations, new tools and requests
for providers and agents, whether they succeed or fail, a new registry has been through. -/
theorem registry_abides (new : w₀.registry.New) (h : Steps out w₀ [] calls w made) : Abides out calls made w := by
  have stocked := h.stocked (stocked_of_empty new.providers new.agents)
  have definitions := h.definitions (show w₀.registry.definitions = distinct [] from new.definitions)
  have current {role : String} {e : Registered} {w₁ w₂ : World σ} {made₁ : List String}
      (before : w₁.registry.Stocked made₁) (done : registeredAgent out role w₁ = (.ok e, w₂)) :
      w₂.registry.Stocked (made₁ ++ createdFor out role w₁) ∧ w₂.registry.agents.get? role = some e ∧
        w₂.registry.Current role e.agent := by
    have after := lasts_stocked.agent made₁ before done
    have kept := retains_of_agent done
    exact ⟨after, kept, after.agents kept⟩
  constructor
  case ordered =>
    rw [roles_eq definitions, latest_eq]
    exact Table.ordered_collect _
  case known =>
    intro role
    rw [roles_eq definitions, latest_eq]
    exact Table.mem_keys_collect
  case defined => exact definition?_eq definitions
  case tools =>
    intro role
    unfold toolsFor
    rw [h.toolboxes (show w₀.registry.toolboxes.get? role = none by rw [new.toolboxes]; rfl)]
  case cached =>
    intro role e found
    exact ⟨mem_roles_of_current (stocked.agents found), stocked.agents found⟩
  case given =>
    intro role e w' done
    obtain ⟨-, kept, agent⟩ := current stocked done
    exact ⟨kept, mem_roles_of_current agent, agent⟩
  case again =>
    rintro before role e after rfl still
    obtain ⟨w₁, made₁, w₂, made₂, -, called, back⟩ := h.at_call
    cases called with
    | agent _ done =>
      obtain ⟨task, kept⟩ := back.retains still ⟨e.agent.task, retains_of_agent done⟩
      refine ⟨task, ?_⟩
      unfold registeredAgent
      rw [kept]
  case another =>
    -- Agents have numbers that only grow: what was given is below all that is made once it is dropped.
    rintro before role e after rfl ⟨c, mem, drops⟩ e' w' done'
    obtain ⟨w₁, made₁, w₂, made₂, front, called, back⟩ := h.at_call
    cases called with
    | agent _ done =>
      obtain ⟨after, kept, -⟩ := current (front.stocked (stocked_of_empty new.providers new.agents)) done
      have renewed := back.renewed_of_drop (Nat.le_refl _) mem drops
      have later := ((lasts_renewed _ role).agent made renewed done').2 e' (retains_of_agent done')
      have earlier := after.below kept
      omega
  case once => exact stocked.once
  case supplied => exact stocked.supplied
  case counted =>
    intro log logs isOutside
    exact ⟨log_provider logs isOutside, log_agent logs isOutside⟩
  case generation => rw [h.generation, new.generation, Nat.zero_add]
  case refused => exact fun _ _ _ => unchanged_of_provider
  case unavailable => exact fun _ _ _ => unchanged_of_agent

end

end World

namespace Rehearsal

def agency : World Stage := { outside := { models := [("main", .cues [])] } }

def team : List Specialist :=
  [⟨"billing", "Find invoices", "", none, false⟩, ⟨"travel", "Book trips", "", none, false⟩,
    ⟨"billing", "Explain invoices", "", none, false⟩]

end Rehearsal

open Rehearsal Registry in
/-- Two of the definitions are for one role, and another role is given tools before the agent is asked for
again. -/
theorem World.registry_abides_team :
    ∃ (w : World Stage) (e : Registered), agency.registry.New ∧
      Steps Stage.outside agency [] [.configure team, .agent "billing" (.ok e), .setTools "travel" {}] w ["main"] ∧
      e.agent.objective = "Explain invoices" ∧ w.registry.generation = 2 ∧ ["main"].Nodup ∧
      ∃ task, registeredAgent Stage.outside "billing" w = (.ok ⟨e.serial, { e.agent with task := task }⟩, w) := by
  have fresh : agency.registry.New := ⟨rfl, rfl, rfl, rfl, rfl⟩
  have seen : (registeredAgent Stage.outside "billing" { agency with registry := agency.registry.configure team }).1.toOption.map
      (fun e => e.agent.objective) = some "Explain invoices" := by decide +kernel
  have one : createdFor Stage.outside "billing" { agency with registry := agency.registry.configure team } = ["main"] := by
    decide +kernel
  rcases done : registeredAgent Stage.outside "billing" { agency with registry := agency.registry.configure team }
    with ⟨error | e, w⟩ <;> rw [done] at seen
  · cases seen
  · have objective : e.agent.objective = "Explain invoices" := Option.some.inj seen
    have called := Calls.agent [] done
    rw [one] at called
    have steps := Steps.call (.configure agency [] team) (.call called (.call (.setTools w ["main"] "travel" {}) .nil))
    have abides := registry_abides fresh steps
    refine ⟨_, e, fresh, steps, objective, abides.generation, abides.once, ?_⟩
    exact abides.again [.configure team] "billing" e [.setTools "travel" {}] rfl (by simp [Call.drops])

end Concierge
