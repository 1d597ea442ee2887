import Concierge.Proofs.Provider

/-!
# What a registry keeps

The agents that a registry keeps are those that it would make, up to the task that was noted of them, and
their numbers tell them apart: the registry is `Sound`. A new configuration makes a registry sound, and
agents leave it sound.
-/

namespace Concierge

open Run

variable {σ : Type}

namespace Registry

/-- The agent is the specialist as the registry has it now, with this provider and whatever task was noted of it. -/
structure Describes (r : Registry) (sp : Specialist) (p : Provider) (a : Agent) : Prop where
  role : a.role = sp.role
  objective : a.objective = sp.objective
  context : a.context = sp.context
  provider : a.provider = p
  tools : a.tools = (r.toolboxes.get? sp.role).getD {}
  search : a.search = sp.search
  limits : a.limits = r.limits
  thinking : a.thinking = false

def Casts (r : Registry) (role : String) (a : Agent) : Prop :=
  ∃ d p, r.validate role = .ok d ∧ (r.providers.get? (r.modelOf d)).isSome ∧ p.model = r.modelOf d ∧
    p.backend = r.backend ∧ r.Describes d p a

structure Sound (r : Registry) : Prop where
  genuine : r.Genuine
  agents : ∀ {role e}, r.agents.get? role = some e → r.Casts role e.agent
  numbered : ∀ {role role' e e'}, r.agents.get? role = some e → r.agents.get? role' = some e' →
    e.serial = e'.serial → role = role'
  below : ∀ {role e}, r.agents.get? role = some e → e.serial < r.made

section
variable {r r' : Registry} {role : String} {a : Agent}

theorem describes_agentFor (r : Registry) (sp : Specialist) (p : Provider) : r.Describes sp p (r.agentFor sp p) :=
  ⟨rfl, rfl, rfl, rfl, rfl, rfl, rfl, rfl⟩

theorem Describes.noted {sp : Specialist} {p : Provider} (h : r.Describes sp p a) (task : Option String) :
    r.Describes sp p { a with task := task } :=
  ⟨h.role, h.objective, h.context, h.provider, h.tools, h.search, h.limits, h.thinking⟩

/-- Of what the registry holds only the tools of the role and the limits matter. -/
theorem Describes.later {sp : Specialist} {p : Provider} (h : r.Describes sp p a)
    (tools : r'.toolboxes.get? sp.role = r.toolboxes.get? sp.role) (limits : r'.limits = r.limits) :
    r'.Describes sp p a :=
  { h with tools := by rw [tools, h.tools], limits := by rw [limits, h.limits] }

theorem sound_of_empty (providers : r.providers = []) (agents : r.agents = []) : r.Sound := by
  refine ⟨genuine_of_empty providers, ?_, ?_, ?_⟩
  all_goals
    intros
    simp_all [Table.get?]

theorem sound_configure (r : Registry) (ds : List Specialist) : (r.configure ds).Sound := sound_of_empty rfl rfl

theorem Casts.role_eq (h : r.Casts role a) : a.role = role := by
  obtain ⟨d, p, valid, -, -, -, described⟩ := h
  rw [described.role]
  unfold validate definition? at valid
  split at valid
  · rename_i found
    cases valid
    have named := List.find?_some found
    rw [decide_eq_true_eq] at named
    exact named
  · cases valid

/-- It is enough that the definitions are the same and that no provider is lost. -/
theorem Casts.later (h : r.Casts role a) (steady : r.Steady r')
    (kept : ∀ model, (r.providers.get? model).isSome → (r'.providers.get? model).isSome) : r'.Casts role a := by
  obtain ⟨d, p, valid, cached, model, backend, described⟩ := h
  have same : r'.modelOf d = r.modelOf d := by rw [modelOf, modelOf, steady.defaultModel]
  refine ⟨d, p, ?_, ?_, ?_, ?_, described.later (by rw [steady.toolboxes]) steady.limits⟩
  · unfold validate definition? Registry.roles at valid ⊢
    rw [steady.definitions]
    exact valid
  · rw [same]
    exact kept _ cached
  · rw [same]
    exact model
  · rw [steady.backend]
    exact backend

end

theorem providers_setTask (r : Registry) (role : String) (serial : Nat) (task : String) :
    (r.setTask role serial task).providers = r.providers := by
  unfold setTask
  split
  · split <;> rfl
  · rfl

namespace Sound

variable {r : Registry} (h : r.Sound)
include h

theorem addProvider (model : String) : (r.addProvider model).2.Sound := by
  have steady := r.steady_addProvider model
  refine ⟨h.genuine.addProvider model, fun found => (h.agents found).later steady ?_, h.numbered, ?_⟩
  · intro other cached
    simp only [Registry.addProvider, Table.get?_put]
    split
    · rfl
    · exact cached
  · intro role e found
    exact Nat.lt_succ_of_lt (h.below found)

theorem addAgent {role : String} {a : Agent} (makes : r.Makes role a) : (r.addAgent role a).2.Sound := by
  have steady := r.steady_addAgent role a
  have entry {role' : String} {e : Registered} (found : (r.addAgent role a).2.agents.get? role' = some e) :
      role' = role ∧ e = ⟨r.made, a⟩ ∨ r.agents.get? role' = some e := by
    simp only [Registry.addAgent, Table.get?_put] at found
    split at found
    · rename_i same
      cases found
      exact Or.inl ⟨same, rfl⟩
    · exact Or.inr found
  constructor
  · exact h.genuine
  · intro role' e found
    refine Casts.later ?_ steady fun _ => id
    rcases entry found with ⟨rfl, rfl⟩ | old
    · obtain ⟨d, p, valid, cached, rfl⟩ := makes
      obtain ⟨model, backend⟩ := h.genuine _ _ cached
      have kept : (r.providers.get? (r.modelOf d)).isSome := by rw [cached]; rfl
      exact ⟨d, p, valid, kept, model, backend, r.describes_agentFor d p⟩
    · exact h.agents old
  · intro role₁ role₂ e₁ e₂ found₁ found₂ same
    rcases entry found₁ with ⟨rfl, rfl⟩ | old₁ <;> rcases entry found₂ with ⟨rfl, rfl⟩ | old₂
    · rfl
    · have less := h.below old₂
      dsimp only at same
      omega
    · have less := h.below old₁
      dsimp only at same
      omega
    · exact h.numbered old₁ old₂ same
  · intro role' e found
    rcases entry found with ⟨rfl, rfl⟩ | old
    · exact Nat.lt_succ_self _
    · exact Nat.lt_succ_of_lt (h.below old)

omit h in
theorem get?_setTask {role : String} {serial : Nat} {task : String} {role' : String} {e : Registered}
    (found : (r.setTask role serial task).agents.get? role' = some e) :
    ∃ e₀ task', r.agents.get? role' = some e₀ ∧ e = ⟨e₀.serial, { e₀.agent with task := task' }⟩ := by
  unfold Registry.setTask at found
  split at found
  · rename_i e₀ held
    split at found
    · rw [Table.get?_put] at found
      split at found
      · rename_i same
        cases found
        exact ⟨e₀, some task, same ▸ held, rfl⟩
      · exact ⟨e, e.agent.task, found, rfl⟩
    · exact ⟨e, e.agent.task, found, rfl⟩
  · exact ⟨e, e.agent.task, found, rfl⟩

theorem setTask (role : String) (serial : Nat) (task : String) : (r.setTask role serial task).Sound := by
  have steady := r.steady_setTask role serial task
  have providers := r.providers_setTask role serial task
  have made : (r.setTask role serial task).made = r.made := by
    unfold Registry.setTask
    split
    · split <;> rfl
    · rfl
  refine ⟨h.genuine.setTask role serial task, fun found => ?_, fun found found' same => ?_, fun found => ?_⟩
  · obtain ⟨e₀, task', held, rfl⟩ := get?_setTask found
    obtain ⟨d, p, valid, cached, model, backend, described⟩ := h.agents held
    have cast : r.Casts _ { e₀.agent with task := task' } :=
      ⟨d, p, valid, cached, model, backend, described.noted task'⟩
    refine cast.later steady fun model => ?_
    rw [providers]
    exact id
  · obtain ⟨e₀, task₀, held, rfl⟩ := get?_setTask found
    obtain ⟨e₁, task₁, held₁, rfl⟩ := get?_setTask found'
    exact h.numbered held held₁ same
  · obtain ⟨e₀, task₀, held, rfl⟩ := get?_setTask found
    rw [made]
    have less := h.below held
    exact less

theorem setTools (role : String) (tools : Toolbox) : (r.setTools role tools).Sound := by
  have entry {role' : String} {e : Registered} (found : (r.setTools role tools).agents.get? role' = some e) :
      role' ≠ role ∧ r.agents.get? role' = some e := by
    simp only [Registry.setTools, Table.get?_erase] at found
    split at found
    · cases found
    · exact ⟨‹_›, found⟩
  constructor
  · exact h.genuine
  · intro role' e found
    obtain ⟨other, held⟩ := entry found
    have named := (h.agents held).role_eq
    obtain ⟨d, p, valid, cached, model, backend, described⟩ := h.agents held
    refine ⟨d, p, valid, cached, model, backend, described.later ?_ rfl⟩
    have different : d.role ≠ role := by
      rw [← described.role, named]
      exact other
    simp only [Registry.setTools, Table.get?_put, different, if_false]
  · intro role₁ role₂ e₁ e₂ found₁ found₂ same
    exact h.numbered (entry found₁).2 (entry found₂).2 same
  · intro role' e found
    exact h.below (entry found).2

end Sound

end Registry

theorem sound_deskDrift (out : Outside σ) : DeskDrift out fun w w' => w.registry.Sound → w'.registry.Sound where
  trans h h' := h' ∘ h
  clock _ _ := id
  outside _ _ _ := id
  facts store chat op _ _ := along_modifyGet fun w h => by
    rw [World.access_registry]
    exact h
  record store chat m _ := along_modifyGet fun w h => by
    rw [World.access_registry]
    exact h
  addProvider _ model h := h.addProvider model
  addAgent _ _ _ makes h := h.addAgent makes
  setTask _ role serial task h := h.setTask role serial task
  openStores plan := along_modifyGet fun w h => by
    rw [World.openAll_registry]
    exact h

end Concierge
