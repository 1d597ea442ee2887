import Concierge.Proofs.Isolation.Comparison

/-!
# Providers and agents that are kept

A registry keeps the providers and agents that it has made for any session. Whether it finds them or makes
them now, and whatever task was noted of them, they do the same (`Comparison.staffed`). So nothing passes
from one session to another by way of the registry.
-/

namespace Concierge

open Run

variable {σ τ : Type}

/-! ## Taking from the registry -/

namespace World

variable {out : Outside σ} {w : World σ}

theorem provider_agents (out : Outside σ) (model : String) (w : World σ) :
    (provider out model w).2.registry.agents = w.registry.agents := by
  have kept := checkModel_registry out model w
  unfold provider
  split
  · rfl
  · split <;> rename_i h <;> rw [h] at kept
    · rw [kept]
    · dsimp only [Registry.addProvider]
      rw [kept]

theorem provider_kept {model : String} {p : Provider} (kept : w.registry.providers.get? model = some p) :
    provider out model w = (.ok p, w) := by
  unfold provider
  rw [kept]

theorem provider_failed {model : String} {e : ModelError} (absent : w.registry.providers.get? model = none)
    (failed : (checkModel out model w).1 = .error e) :
    provider out model w = (.error (.noClient model e), (checkModel out model w).2) := by
  unfold provider
  rw [absent, show checkModel out model w = (.error e, (checkModel out model w).2) from Prod.ext failed rfl]

theorem provider_made {model : String} (absent : w.registry.providers.get? model = none)
    (ok : (checkModel out model w).1 = .ok ()) :
    provider out model w =
      (.ok ((checkModel out model w).2.registry.addProvider model).1,
        { (checkModel out model w).2 with registry := ((checkModel out model w).2.registry.addProvider model).2 }) := by
  unfold provider
  rw [absent, show checkModel out model w = (.ok (), (checkModel out model w).2) from Prod.ext ok rfl]

/-- Take the agent that is kept of a role, or else keep this one. -/
def enlist (role : String) (a : Agent) (w : World σ) : Registered × World σ :=
  match w.registry.agents.get? role with
  | some e => (e, w)
  | none => ((w.registry.addAgent role a).1, { w with registry := (w.registry.addAgent role a).2 })

theorem enlist_run {role : String} {a : Agent} (sound : w.registry.Sound) (makes : w.registry.Makes role a) :
    ∃ e r, enlist role a w = (e, { w with registry := r }) ∧ w.registry.Steady r ∧ r.Sound ∧
      r.providers = w.registry.providers ∧ r.agents.get? role = some e ∧
      ∀ {role' e'}, w.registry.agents.get? role' = some e' → r.agents.get? role' = some e' := by
  unfold enlist
  cases kept : w.registry.agents.get? role with
  | some e => exact ⟨e, w.registry, rfl, Registry.Steady.refl _, sound, rfl, kept, id⟩
  | none =>
    refine ⟨_, _, rfl, ⟨rfl, rfl, rfl, rfl, rfl, rfl⟩, sound.addAgent makes, rfl, ?_, fun {role' e'} held => ?_⟩
    · simp only [Registry.addAgent, Table.get?_put, if_true]
    · have other : role' ≠ role := by
        rintro rfl
        rw [kept] at held
        cases held
      simp only [Registry.addAgent, Table.get?_put, other, if_false]
      exact held

theorem registeredAgent_eq (sound : w.registry.Sound) (out : Outside σ) (role : String) :
    registeredAgent out role w =
      match w.registry.validate role with
      | .error e => (.error e, w)
      | .ok d =>
        match provider out (w.registry.modelOf d) w with
        | (.error e, w) => (.error e, w)
        | (.ok p, w) =>
          (.ok (enlist role (w.registry.agentFor d p) w).1, (enlist role (w.registry.agentFor d p) w).2) := by
  unfold registeredAgent
  cases kept : w.registry.agents.get? role with
  | some e =>
    -- An agent that is kept is defined and has its provider, so looking for these first makes no difference.
    obtain ⟨d, p, valid, has, -⟩ := sound.agents kept
    obtain ⟨q, cached⟩ := Option.isSome_iff_exists.mp has
    rw [valid]
    dsimp only
    rw [provider_kept cached]
    dsimp only
    unfold enlist
    rw [kept]
  | none =>
    dsimp only
    cases w.registry.validate role with
    | error e => rfl
    | ok d =>
      have agents := provider_agents out (w.registry.modelOf d) w
      dsimp only
      generalize provider out (w.registry.modelOf d) w = x at agents
      obtain ⟨answer, w₁⟩ := x
      cases answer with
      | error e => rfl
      | ok p =>
        dsimp only at agents ⊢
        unfold enlist
        rw [agents, kept]

end World

namespace Registry

section
variable {r r' : Registry}

theorem Running.later {roles : List String} {l : List Nat} (h : r.Running roles l)
    (kept : ∀ {role e}, r.agents.get? role = some e → ∃ e', r'.agents.get? role = some e' ∧ e'.serial = e.serial) :
    r'.Running roles l := by
  refine h.imp fun role serial running => ?_
  obtain ⟨e, held, same⟩ := running
  obtain ⟨e', held', same'⟩ := kept held
  exact ⟨e', held', same'.trans same⟩

theorem Running.mem_iff {roles : List String} {l : List Nat} (h : r.Running roles l) (sound : r.Sound) {role : String}
    {e : Registered} (held : r.agents.get? role = some e) : e.serial ∈ l ↔ role ∈ roles := by
  induction h with
  | nil => simp
  | @cons other serial roles l first _ ih =>
    obtain ⟨e', held', same⟩ := first
    have here : e.serial = serial ↔ role = other := by
      constructor
      · intro equal
        exact sound.numbered held held' (equal.trans same.symm)
      · intro equal
        rw [equal, held'] at held
        cases held
        exact same
    rw [List.mem_cons, List.mem_cons, here, ih]

theorem serial_setTask (r : Registry) (role : String) (serial : Nat) (task : String) {role' : String} {e : Registered}
    (held : r.agents.get? role' = some e) :
    ∃ e', (r.setTask role serial task).agents.get? role' = some e' ∧ e'.serial = e.serial := by
  unfold setTask
  split
  · rename_i e₀ held₀
    split
    · by_cases same : role' = role
      · rw [same, held₀] at held
        cases held
        refine ⟨{ e with agent := { e.agent with task := some task } }, ?_, rfl⟩
        rw [Table.get?_put, if_pos same]
      · exact ⟨e, by rw [Table.get?_put, if_neg same]; exact held, rfl⟩
    · exact ⟨e, held, rfl⟩
  · exact ⟨e, held, rfl⟩

end

inductive Keeps (model : String) (r : Registry) : Registry → Prop
  | kept (has : (r.providers.get? model).isSome) : Keeps model r r
  | added : Keeps model r (r.addProvider model).2

namespace Keeps

variable {model : String} {r r' : Registry} (h : r.Keeps model r')
include h

theorem steady : r.Steady r' := by
  cases h with
  | kept => exact Steady.refl r
  | added => exact r.steady_addProvider model

theorem sound (sound : r.Sound) : r'.Sound := by
  cases h with
  | kept => exact sound
  | added => exact sound.addProvider model

theorem has : (r'.providers.get? model).isSome := by
  cases h with
  | kept has => exact has
  | added => simp [addProvider, Table.get?_put]

theorem others {m : String} (other : m ≠ model) : r'.providers.get? m = r.providers.get? m := by
  cases h with
  | kept => rfl
  | added => simp [addProvider, Table.get?_put, other]

end Keeps

end Registry

/-- Looked for in two registries: an error that is the same, or two of the kind. -/
inductive Found {α β : Type} (R : α → β → Prop) : Except RegistryError α → Except RegistryError β → Prop
  | error (e : RegistryError) : Found R (.error e) (.error e)
  | ok {a b} (h : R a b) : Found R (.ok a) (.ok b)

namespace Comparison

variable {C : Comparison σ τ} {n : Names} {w : World σ} {w' : World τ} {r r' r₁ r₁' : Registry}

/-! ## Registries that go on alike -/

theorem Registries.validate_eq (h : C.Registries r r') (role : String) : r'.validate role = r.validate role := by
  unfold Registry.validate Registry.definition? Registry.roles
  rw [h.steady.definitions]

theorem Registries.modelOf_eq (h : C.Registries r r') (d : Specialist) : r'.modelOf d = r.modelOf d := by
  unfold Registry.modelOf
  rw [h.steady.defaultModel]

theorem Registries.agents (h : C.Registries r r') (steady : r.Steady r₁) (steady' : r'.Steady r₁')
    (providers : r₁.providers = r.providers) (providers' : r₁'.providers = r'.providers) : C.Registries r₁ r₁' := by
  refine ⟨(steady.symm.trans h.steady).trans steady', fun model => ?_⟩
  rw [steady.backend, providers, providers']
  exact h.providers model

theorem Worlds.setRegistries (h : C.Worlds n w w') (registries : C.Registries r r') (steady : w.registry.Steady r)
    (steady' : w'.registry.Steady r') (sound : r.Sound) (sound' : r'.Sound) :
    C.Worlds n { w with registry := r } { w' with registry := r' } := by
  refine { h with
    registries := registries, sound := sound, sound' := sound', toolboxes := fun role => ?_,
    tidy := h.tidy.congr rfl rfl rfl, tidy' := h.tidy'.congr rfl rfl rfl }
  have same := h.toolboxes role
  unfold Registry.toolsFor at same ⊢
  rw [steady.toolboxes, steady'.toolboxes]
  exact same

/-! ## Providers -/

theorem Worlds.keep (h : C.Worlds n w w') {model : String} (keeps : w.registry.Keeps model r)
    (keeps' : w'.registry.Keeps model r') : C.Worlds n { w with registry := r } { w' with registry := r' } := by
  refine h.setRegistries ⟨?_, fun m => ?_⟩ keeps.steady keeps'.steady (keeps.sound h.sound) (keeps'.sound h.sound')
  · exact (keeps.steady.symm.trans h.registries.steady).trans keeps'.steady
  · by_cases same : m = model
    · rw [same, keeps.has, keeps'.has]
      exact Or.inr rfl
    · rw [keeps.steady.backend, keeps.others same, keeps'.others same]
      exact h.registries.providers m

theorem checkModel_alike (hC : C.Impartial) (h : C.Worlds n w w') (model : String) :
    (World.checkModel C.out model w).1 = (World.checkModel C.out' model w').1 ∧
      C.Worlds n (World.checkModel C.out model w).2 (World.checkModel C.out' model w').2 := by
  unfold World.checkModel
  rw [h.registries.steady.backend]
  cases w.registry.backend with
  | outside =>
    obtain ⟨same, after⟩ := hC.createModel model h.outside
    exact ⟨same, h.ask after (hC.draws.createModel _ _) (hC.draws'.createModel _ _)⟩
  | gemini client => exact ⟨rfl, h⟩

theorem checkModel_certain (hC : C.Impartial) (h : C.Worlds n w w') {model : String}
    (certain : C.Certain model w.registry.backend) :
    ((World.checkModel C.out model w).1 = .ok () ∧ C.Worlds n (World.checkModel C.out model w).2 w') ∧
      (World.checkModel C.out' model w').1 = .ok () ∧ C.Worlds n w (World.checkModel C.out' model w').2 := by
  unfold World.checkModel
  rw [h.registries.steady.backend]
  cases backend : w.registry.backend with
  | outside =>
    rw [backend] at certain
    obtain ⟨ok, after, ok', after'⟩ := hC.certain certain h.outside
    exact ⟨⟨ok, h.ask after (hC.draws.createModel _ _) rfl⟩, ok', h.ask after' rfl (hC.draws'.createModel _ _)⟩
  | gemini client =>
    rw [backend] at certain
    exact ⟨⟨certain, h⟩, certain, h⟩

theorem twin_provider (hC : C.Impartial) (model : String) :
    (C.bond n).Twin (Found Provider.Same) (.modifyGet (World.provider C.out model))
      (.modifyGet (World.provider C.out' model)) := by
  refine twin_modifyGet fun w w' (h : C.Worlds n w w') => ?_
  have both {p p' : Provider} (kept : p.model = model ∧ p.backend = w.registry.backend)
      (kept' : p'.model = model ∧ p'.backend = w'.registry.backend) : p.Same p' := by
    refine ⟨?_, kept.1.trans kept'.1.symm⟩
    rw [kept.2, kept'.2, h.registries.steady.backend]
  have new : (World.checkModel C.out model w).2.registry.backend = w.registry.backend :=
    congrArg Registry.backend (World.checkModel_registry C.out model w)
  have new' : (World.checkModel C.out' model w').2.registry.backend = w'.registry.backend :=
    congrArg Registry.backend (World.checkModel_registry C.out' model w')
  -- A model that is kept on one side only can be had at any time, so the other side comes by it too.
  have certain (differ : (w.registry.providers.get? model).isSome ≠ (w'.registry.providers.get? model).isSome) :=
    checkModel_certain hC h ((h.registries.providers model).resolve_right differ)
  cases kept : w.registry.providers.get? model with
  | some p =>
    have genuine := h.sound.genuine model p kept
    have has : (w.registry.providers.get? model).isSome := Option.isSome_of_mem kept
    rw [World.provider_kept kept]
    cases kept' : w'.registry.providers.get? model with
    | some p' =>
      rw [World.provider_kept kept']
      exact ⟨.ok (both genuine (h.sound'.genuine model p' kept')), h⟩
    | none =>
      obtain ⟨-, ok, after⟩ := certain (by simp [kept, kept'])
      rw [World.provider_made kept' ok]
      exact ⟨.ok (both genuine ⟨rfl, new'⟩), after.keep (.kept has) .added⟩
  | none =>
    cases kept' : w'.registry.providers.get? model with
    | some p' =>
      have has' : (w'.registry.providers.get? model).isSome := Option.isSome_of_mem kept'
      obtain ⟨⟨ok, after⟩, -⟩ := certain (by simp [kept, kept'])
      rw [World.provider_kept kept', World.provider_made kept ok]
      exact ⟨.ok (both ⟨rfl, new⟩ (h.sound'.genuine model p' kept')), after.keep .added (.kept has')⟩
    | none =>
      obtain ⟨same, after⟩ := checkModel_alike hC h model
      cases answer : (World.checkModel C.out model w).1 with
      | error e =>
        rw [World.provider_failed kept answer, World.provider_failed kept' (same.symm.trans answer)]
        exact ⟨.error _, after⟩
      | ok _ =>
        rw [World.provider_made kept answer, World.provider_made kept' (same.symm.trans answer)]
        exact ⟨.ok (both ⟨rfl, new⟩ ⟨rfl, new'⟩), after.keep .added .added⟩

/-! ## Agents -/

/-- Whatever the registries made for one role differs in the task that was noted at most. -/
theorem Registries.agents_alike (h : C.Registries r r') (n : Names) {role : String} {a a' : Agent}
    (casts : r.Casts role a) (casts' : r'.Casts role a') (caller : String) :
    (C.bond n).Agents ⟨caller, none⟩ ⟨caller, none⟩ a a' := by
  obtain ⟨d, p, valid, -, model, backend, described⟩ := casts
  obtain ⟨d', p', valid', -, model', backend', described'⟩ := casts'
  rw [h.validate_eq, valid] at valid'
  cases valid'
  rw [h.modelOf_eq] at model'
  have described₁ : r.Describes d p' a' := described'.later (by rw [h.steady.toolboxes]) h.steady.limits.symm
  have tools : a.tools = a'.tools := described.tools.trans described₁.tools.symm
  refine agents_alone caller ?_ (described.limits.trans described₁.limits.symm)
    (described.thinking.trans described₁.thinking.symm) ?_ (fun roles => ?_) tools
  · rw [described.provider, described'.provider]
    exact ⟨backend.trans (h.steady.backend.symm.trans backend'.symm), model.trans model'.symm⟩
  · unfold Agent.instructions
    rw [described.context, described.role, described.objective, described'.context, described'.role,
      described'.objective]
  · unfold Agent.offer
    rw [tools, described.search, described'.search]

theorem hired (h : C.Worlds n w w') {role : String} {e e' : Registered} (held : w.registry.agents.get? role = some e)
    (held' : w'.registry.agents.get? role = some e') {l l' : List Nat}
    (busy : (C.bond n).busy l l' w.registry w'.registry) :
    (C.bond n).Hired l l' (.ok e, w) (.ok e', w') := by
  have casts := h.sound.agents held
  have casts' := h.sound'.agents held'
  obtain ⟨roles, running, running'⟩ := busy
  have both : e.serial ∈ l ↔ e'.serial ∈ l' :=
    (running.mem_iff h.sound held).trans (running'.mem_iff h.sound' held').symm
  refine .agents h ⟨roles, running, running'⟩ (casts.role_eq.trans casts'.role_eq.symm)
    (h.registries.agents_alike n casts casts') both fun task => ?_
  have steady := Registry.steady_setTask w.registry e.agent.role e.serial task
  have steady' := Registry.steady_setTask w'.registry e'.agent.role e'.serial task
  constructor
  · refine h.setRegistries ?_ steady steady' (h.sound.setTask _ _ _) (h.sound'.setTask _ _ _)
    exact h.registries.agents steady steady' (Registry.providers_setTask _ _ _ _) (Registry.providers_setTask _ _ _ _)
  · refine ⟨role :: roles, .cons ?_ (running.later ?_), .cons ?_ (running'.later ?_)⟩
    · exact Registry.serial_setTask _ _ _ task held
    · exact Registry.serial_setTask _ _ _ task
    · exact Registry.serial_setTask _ _ _ task held'
    · exact Registry.serial_setTask _ _ _ task

theorem twin_hire (hC : C.Impartial) (role : String) (h : C.Worlds n w w') {l l' : List Nat}
    (busy : (C.bond n).busy l l' w.registry w'.registry) :
    (C.bond n).Hired l l' (World.registeredAgent C.out role w) (World.registeredAgent C.out' role w') := by
  rw [World.registeredAgent_eq h.sound, World.registeredAgent_eq h.sound', h.registries.validate_eq]
  cases valid : w.registry.validate role with
  | error e => exact .nobody e h busy
  | ok d =>
    have valid' : w'.registry.validate role = .ok d := (h.registries.validate_eq role).trans valid
    have model := h.registries.modelOf_eq d
    have agents := World.provider_agents C.out (w.registry.modelOf d) w
    have agents' := World.provider_agents C.out' (w'.registry.modelOf d) w'
    have providers := twin_of_modifyGet (twin_provider hC (w.registry.modelOf d)) h
    have makes {p w₁} : World.provider C.out (w.registry.modelOf d) w = (.ok p, w₁) →
        w₁.registry.Makes role (w₁.registry.agentFor d p) := World.makes_of_provider valid
    have makes' {p w₁} : World.provider C.out' (w'.registry.modelOf d) w' = (.ok p, w₁) →
        w₁.registry.Makes role (w₁.registry.agentFor d p) := World.makes_of_provider valid'
    dsimp only
    rw [← model] at providers
    rw [model] at agents' makes' providers ⊢
    generalize World.provider C.out (w.registry.modelOf d) w = x at providers agents makes
    generalize World.provider C.out' (w.registry.modelOf d) w' = y at providers agents' makes'
    obtain ⟨answer, w₁⟩ := x
    obtain ⟨answer', w₁'⟩ := y
    obtain ⟨answers, after⟩ := providers
    dsimp only at answers after agents agents'
    have still : (C.bond n).busy l l' w₁.registry w₁'.registry := by
      obtain ⟨roles, running, running'⟩ := busy
      refine ⟨roles, running.later fun {role e} held => ⟨e, ?_, rfl⟩, running'.later fun {role e} held => ⟨e, ?_, rfl⟩⟩
      · rw [agents]
        exact held
      · rw [agents']
        exact held
    cases answers with
    | error e => exact .nobody e after still
    | @ok p p' same =>
      obtain ⟨e, r, run, steady, sound, keeps, held, kept⟩ := World.enlist_run after.sound (makes rfl)
      obtain ⟨e', r', run', steady', sound', keeps', held', kept'⟩ := World.enlist_run after.sound' (makes' rfl)
      dsimp only
      rw [run, run']
      have registries := after.registries.agents steady steady' keeps keeps'
      have worlds := after.setRegistries registries steady steady' sound sound'
      obtain ⟨roles, running, running'⟩ := still
      exact hired worlds held held'
        ⟨roles, running.later fun held => ⟨_, kept held, rfl⟩, running'.later fun held => ⟨_, kept' held, rfl⟩⟩

/-- **What a turn can see is the same, whatever the registries keep.** -/
theorem staffed (hC : C.Impartial) (n : Names) : (C.bond n).Staffed C.out C.out' where
  toFair := fair hC n
  idle _ := ⟨[], .nil, .nil⟩
  finish := by
    rintro m m' l l' r r' ⟨roles, running, running'⟩
    cases running with
    | cons _ running =>
      cases running' with
      | cons _ running' => exact ⟨_, running, running'⟩
  hire role _ _ _ _ h busy := twin_hire hC role h busy

end Comparison

end Concierge
