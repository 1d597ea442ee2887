import Concierge.Proofs.Handoff.Machine

/-!
# Coherent sessions

Who is active, which specialists there are, what waits for the coordinator and which generation of
the registry the specialists are from hang together: the session is `Coherent`. Hops and handoffs keep
it so, and hence whole calls do; a session that is refreshed is coherent and up to date.
-/

namespace Concierge

open Run

variable {σ : Type}

/-! ## What a specialist is made of -/

theorem Chat.build_new {out : Outside σ} {config : ChatConfig} {p : Provider} {tools : Toolbox}
    {memory : Adapters} {registry : Bool} {deadline : Option Nat} {w w₁ : World σ} {c : Chat}
    (h : Chat.build out config p tools memory registry deadline w = (some c, w₁)) :
    c.memory = memory ∧ c.history = [] ∧
      if memory.isPersistent then
        c.id = some (out.drawChatId w.outside).1 ∧ w₁ = { w with outside := (out.drawChatId w.outside).2 }
      else c.id = none ∧ w₁ = w := by
  unfold Chat.build at h
  obtain ⟨c₀, w₀, made, h⟩ := bind_eq_some.mp h
  have new : c₀.memory = memory ∧ c₀.history = [] ∧
      if memory.isPersistent then
        c₀.id = some (out.drawChatId w.outside).1 ∧ w₀ = { w with outside := (out.drawChatId w.outside).2 }
      else c₀.id = none ∧ w₀ = w := by
    unfold Chat.make at made
    split at made
    · rename_i persistent
      obtain ⟨id, w', drew, made⟩ := bind_eq_some.mp made
      cases made
      cases drew
      exact ⟨rfl, rfl, by rw [if_pos persistent]; exact ⟨rfl, rfl⟩⟩
    · rename_i transient
      cases made
      exact ⟨rfl, rfl, by rw [if_neg transient]; exact ⟨rfl, rfl⟩⟩
  obtain ⟨w', w'', got, h⟩ := bind_eq_some.mp h
  cases got
  -- The tools that are offered on top make no difference to that.
  obtain ⟨a, equipped⟩ : ∃ a, c = { c₀ with agent := a } := by
    cases h
    unfold Chat.withMemoryTools Chat.withDelegation
    repeat' split
    all_goals exact ⟨_, rfl⟩
  cases h
  rw [equipped]
  exact new

theorem Chat.build_history {out : Outside σ} {config : ChatConfig} {p : Provider} {tools : Toolbox}
    {memory : Adapters} {registry : Bool} {deadline : Option Nat} {w w₁ : World σ} {c : Chat}
    (h : Chat.build out config p tools memory registry deadline w = (some c, w₁)) : c.history = [] :=
  (build_new h).2.1

theorem Registry.role_mem_of_validate {r : Registry} {role : String} {sp : Specialist}
    (h : r.validate role = .ok sp) : role ∈ r.roles := by
  unfold Registry.validate Registry.definition? at h
  split at h
  · rename_i d found
    have same := List.find?_some found
    rw [decide_eq_true_eq] at same
    rw [← same]
    exact List.mem_map_of_mem (List.mem_of_find?_eq_some found)
  · cases h

namespace DeskSession

section
variable {out : Outside σ} {deadline : Option Nat} {w w₁ : World σ} {role : String}

theorem buildSpecialist_eq_ok {memory : Adapters} {chat : Chat}
    (h : buildSpecialist out role memory deadline w = (some (.ok chat), w₁)) :
    ∃ sp p w₂, w.registry.validate role = .ok sp ∧ World.provider out (w.registry.modelOf sp) w = (.ok p, w₂) ∧
      Chat.build out (specialistConfig w.registry.limits sp) p ((w.registry.toolsFor role).register .endHandoff)
        memory false deadline w₂ = (some chat, w₁) := by
  unfold buildSpecialist at h
  obtain ⟨_, _, got, h⟩ := bind_eq_some.mp h
  cases got
  cases valid : w.registry.validate role with
  | error e =>
    rw [valid] at h
    cases h
  | ok sp =>
    rw [valid] at h
    obtain ⟨answer, w₂, asked, h⟩ := bind_eq_some.mp h
    cases answer with
    | error e => cases h
    | ok p =>
      obtain ⟨c, w₃, built, h⟩ := bind_eq_some.mp h
      cases h
      have provided : World.provider out (w.registry.modelOf sp) w = (.ok p, w₂) := by
        injection asked with given left
        exact Prod.ext (Option.some.inj given) left
      exact ⟨sp, p, w₂, rfl, provided, built⟩

theorem made_of_buildSpecialist {memory : Adapters} {chat : Chat}
    (h : buildSpecialist out role memory deadline w = (some (.ok chat), w₁)) :
    role ∈ w.registry.roles ∧ chat.history = [] := by
  obtain ⟨sp, p, w₂, valid, -, built⟩ := buildSpecialist_eq_ok h
  exact ⟨Registry.role_mem_of_validate valid, Chat.build_history built⟩

end

/-! ## A call keeps to a relation -/

section
variable {out : Outside σ} {message : String} {deadline : Option Nat} {s s₁ : DeskSession}
  {w w₁ : World σ} {d : Dispatch} {signal : Option Signal} {accepted : Option Pending}
  {R : World σ → World σ → Prop}

theorem Onward.along {own : ChatId → Prop} (hR : AgentDrift out own R)
    (h : Onward out deadline s w signal accepted s₁ w₁) :
    R w w₁ := by
  cases h with
  | known _ | ended _ => exact hR.refl w
  | built _ made => exact (along_buildSpecialist hR _ _).of_run made

theorem Stays.along {own : ChatId → Prop} (hR : AgentDrift out own R)
    (h : Stays out deadline s w signal w₁) : R w w₁ := by
  cases h with
  | plain | malformed | ignored _ => exact hR.refl w
  | refused _ failed => exact (along_buildSpecialist hR _ _).of_run failed

variable (hR : DeskDrift out R)
include hR

theorem Hop.along (h : Hop out message deadline s w d s₁ w₁) : R w w₁ := by
  cases h with
  | coordinator _ taken | specialist _ _ taken =>
    exact (Chat.along_turn hR.toTurnDrift (fun _ _ => trivial) _).of_run taken

theorem Silent.along (h : Silent out message deadline s w w₁) : R w w₁ := by
  cases h with
  | coordinator _ cut | specialist _ _ cut =>
    exact (Chat.along_turn hR.toTurnDrift (fun _ _ => trivial) _).of_run cut

theorem Passes.along {ds : List Dispatch} (h : Passes out message deadline s w ds s₁ w₁) : R w w₁ := by
  induction h with
  | nil => exact hR.refl _
  | cons hop on _ ih => exact hR.trans (hop.along hR) (hR.trans (on.along hR.toAgentDrift) ih)

theorem Ends.along {hops : Nat} {result : Option (Routed × DeskSession)}
    (h : Ends out message deadline hops s w result w₁) : R w w₁ := by
  cases h with
  | spent passes _ => exact passes.along hR
  | answered passes _ hop stays _ =>
    exact hR.trans (passes.along hR) (hR.trans (hop.along hR) (stays.along hR.toAgentDrift))
  | silent passes _ silent => exact hR.trans (passes.along hR) (silent.along hR)

end

/-! ## Coherence -/

structure Coherent (s : DeskSession) (r : Registry) : Prop where
  named : s.Named
  /-- A result waits for nobody but the coordinator, who is active then. -/
  waiting : s.pending.isSome → s.speaker = .coordinator
  since : s.generation ≤ r.generation
  defined : s.generation = r.generation → ∀ role ∈ s.roles, role ∈ r.roles

namespace Coherent

variable {s : DeskSession} {r r' : Registry}

theorem steady (h : s.Coherent r) (hr : r.Steady r') : s.Coherent r' where
  named := h.named
  waiting := h.waiting
  since := by rw [hr.generation]; exact h.since
  defined := by rw [hr.generation, hr.roles]; exact h.defined

theorem later (h : s.Coherent r) (hlt : r.generation < r'.generation) : s.Coherent r' where
  named := h.named
  waiting := h.waiting
  since := Nat.le_of_lt (Nat.lt_of_le_of_lt h.since hlt)
  defined := fun heq => absurd (heq ▸ h.since) (Nat.not_le_of_lt hlt)

theorem toCoordinator (h : s.Coherent r) : { s with speaker := .coordinator }.Coherent r where
  named := named_of_coordinator rfl
  waiting := fun _ => rfl
  since := h.since
  defined := h.defined

end Coherent

/-! ## A call keeps a session coherent -/

section
variable {out : Outside σ} {message : String} {deadline : Option Nat} {s s₁ : DeskSession}
  {w w₁ : World σ} {d : Dispatch} {signal : Option Signal} {accepted : Option Pending}

theorem Hop.steady (h : Hop out message deadline s w d s₁ w₁) : w.Steady w₁ := h.along (steady_deskDrift out)

theorem Onward.steady (h : Onward out deadline s w signal accepted s₁ w₁) : w.Steady w₁ :=
  h.along (steady_deskDrift out).toAgentDrift

theorem Hop.mem_roles (h : Hop out message deadline s w d s₁ w₁) {role : String} :
    role ∈ s₁.roles ↔ role ∈ s.roles := by
  cases h with
  | coordinator _ _ => exact Iff.rfl
  | @specialist active _ _ _ _ _ known _ =>
    unfold roles
    rw [mem_names_insertSorted]
    constructor
    · intro h
      rcases h with rfl | h
      · exact mem_names_of_lookupName known
      · exact h
    · exact Or.inr

theorem Hop.speaker_eq (h : Hop out message deadline s w d s₁ w₁) : s₁.speaker = s.speaker := by
  cases h <;> rfl

theorem Hop.receiver_eq (h : Hop out message deadline s w d s₁ w₁) : d.receiver = s.speaker := by
  cases h with
  | coordinator active _ | specialist active _ _ => exact active.symm

theorem pending_eq_none {role : String} (hs : s.pending.isSome → s.speaker = .coordinator)
    (active : s.speaker = .specialist role) : s.pending = none := by
  cases held : s.pending with
  | none => rfl
  | some p =>
    have idle := hs (by rw [held]; rfl)
    rw [active] at idle
    cases idle

theorem Hop.pending_eq (h : Hop out message deadline s w d s₁ w₁)
    (hs : s.pending.isSome → s.speaker = .coordinator) : s₁.pending = none := by
  cases h with
  | coordinator _ _ => rfl
  | specialist active _ _ => exact pending_eq_none hs active

theorem Hop.generation_eq (h : Hop out message deadline s w d s₁ w₁) :
    s₁.generation = s.generation := by
  cases h <;> rfl

theorem Onward.generation_eq (h : Onward out deadline s w signal accepted s₁ w₁) :
    s₁.generation = s.generation := by
  cases h <;> rfl

theorem Hop.coherent (h : Hop out message deadline s w d s₁ w₁) (hs : s.Coherent w.registry) :
    s₁.Coherent w₁.registry := by
  refine Coherent.steady ?_ h.steady
  constructor
  · intro role active
    rw [h.speaker_eq] at active
    exact h.mem_roles.mpr (hs.named role active)
  · intro some
    rw [h.pending_eq hs.waiting] at some
    cases some
  · rw [h.generation_eq]
    exact hs.since
  · intro heq role hrole
    rw [h.generation_eq] at heq
    exact hs.defined heq role (h.mem_roles.mp hrole)

theorem Onward.coherent (h : Onward out deadline s w signal accepted s₁ w₁)
    (hs : s.Coherent w.registry) (none : s.pending = none) : s₁.Coherent w₁.registry := by
  -- Also a specialist who was just made is one of this registry: making it changed no definition.
  refine Coherent.steady (r := w.registry) ?_ h.steady
  refine ⟨h.named, ?_, ?_, ?_⟩
  · intro some
    cases h with
    | known _ | built _ _ => rw [show _ = _ from none] at some; cases some
    | ended _ => rfl
  · cases h <;> exact hs.since
  · intro heq role hrole
    cases h with
    | ended _ => exact hs.defined heq role hrole
    | known has =>
      rcases mem_names_insertSorted.mp hrole with rfl | hrole
      · exact hs.defined heq _ (mem_names_of_lookupName has)
      · exact hs.defined heq role hrole
    | built _ made =>
      rcases mem_names_insertSorted.mp hrole with rfl | hrole
      · exact (made_of_buildSpecialist made).1
      · exact hs.defined heq role hrole

theorem Passes.coherent {ds : List Dispatch} (h : Passes out message deadline s w ds s₁ w₁)
    (hs : s.Coherent w.registry) : s₁.Coherent w₁.registry := by
  induction h with
  | nil => exact hs
  | cons hop on _ ih => exact ih (on.coherent (hop.coherent hs) (hop.pending_eq hs.waiting))

theorem Ends.steady {hops : Nat} {result : Option (Routed × DeskSession)}
    (h : Ends out message deadline hops s w result w₁) : w.Steady w₁ := h.along (steady_deskDrift out)

theorem Ends.coherent {hops : Nat} {r : Routed}
    (h : Ends out message deadline hops s w (some (r, s₁)) w₁) (hs : s.Coherent w.registry) :
    s₁.Coherent w₁.registry := by
  cases h with
  | spent passes _ => exact (passes.coherent hs).toCoordinator
  | answered passes _ hop stays _ =>
    have steady := stays.along (steady_deskDrift out).toAgentDrift
    exact (hop.coherent (passes.coherent hs)).steady steady

end

/-! ## Refreshing -/

/-- A session that is behind the registry forgets its specialists. The active one is made anew, or the
coordinator becomes active. -/
inductive Refreshes (out : Outside σ) (deadline : Option Nat) (s : DeskSession) (w : World σ) :
    DeskSession → World σ → Prop
  | current (same : s.generation = w.registry.generation) : Refreshes out deadline s w s w
  | dropped (stale : s.generation ≠ w.registry.generation) (active : s.speaker = .coordinator) :
      Refreshes out deadline s w
        { s with generation := w.registry.generation, specialists := [] } w
  | rebuilt {role chat w₁} (stale : s.generation ≠ w.registry.generation)
      (active : s.speaker = .specialist role)
      (made : buildSpecialist out role s.memory deadline w = (some (.ok chat), w₁)) :
      Refreshes out deadline s w
        { s with generation := w.registry.generation, specialists := [(role, chat)] } w₁
  | lost {role e w₁} (stale : s.generation ≠ w.registry.generation)
      (active : s.speaker = .specialist role)
      (failed : buildSpecialist out role s.memory deadline w = (some (.error e), w₁)) :
      Refreshes out deadline s w
        { s with generation := w.registry.generation, specialists := [], speaker := .coordinator } w₁

section
variable {out : Outside σ} {deadline : Option Nat} {s s₁ : DeskSession} {w w₁ : World σ}

theorem refresh_run (out : Outside σ) (deadline : Option Nat) (s : DeskSession) (w : World σ) :
    ∃ s₁ w₁, s.refresh out deadline w = (some s₁, w₁) ∧ Refreshes out deadline s w s₁ w₁ := by
  unfold refresh
  rw [bind_of_some (get_run)]
  by_cases same : s.generation = w.registry.generation
  · rw [if_pos same]
    exact ⟨s, w, rfl, .current same⟩
  · rw [if_neg same]
    rcases active : s.speaker with _ | role
    · refine ⟨_, w, rfl, ?_⟩
      rw [← active]
      exact .dropped same active
    · obtain ⟨answer, w₁, h⟩ := answers_buildSpecialist out role s.memory deadline w
      dsimp only
      rw [bind_of_some h]
      cases answer with
      | ok chat =>
        refine ⟨_, w₁, rfl, ?_⟩
        rw [← active]
        exact .rebuilt same active h
      | error e => exact ⟨_, w₁, rfl, .lost same active h⟩

theorem Refreshes.along {own : ChatId → Prop} {R : World σ → World σ → Prop} (hR : AgentDrift out own R)
    (h : Refreshes out deadline s w s₁ w₁) : R w w₁ := by
  have built := along_buildSpecialist hR
  cases h with
  | current _ | dropped _ _ => exact hR.refl w
  | rebuilt _ _ made => exact (built _ _).of_run made
  | lost _ _ failed => exact (built _ _).of_run failed

theorem Refreshes.steady (h : Refreshes out deadline s w s₁ w₁) : w.Steady w₁ :=
  h.along (steady_deskDrift out).toAgentDrift

theorem Refreshes.pending_eq (h : Refreshes out deadline s w s₁ w₁) : s₁.pending = s.pending := by
  cases h <;> rfl

theorem Refreshes.generation_eq (h : Refreshes out deadline s w s₁ w₁) :
    s₁.generation = w₁.registry.generation := by
  rw [h.steady.generation]
  cases h with
  | current same => exact same
  | dropped _ _ | rebuilt _ _ _ | lost _ _ _ => rfl

theorem Refreshes.coherent (h : Refreshes out deadline s w s₁ w₁) (hs : s.Coherent w.registry) :
    s₁.Coherent w₁.registry := by
  refine Coherent.steady (r := w.registry) ?_ h.steady
  cases h with
  | current _ => exact hs
  | dropped _ active =>
    refine ⟨named_of_coordinator active, fun _ => active, Nat.le_refl _, fun _ role hrole => ?_⟩
    cases hrole
  | @rebuilt role chat _ _ active made =>
    refine ⟨fun role' active' => ?_, hs.waiting, Nat.le_refl _, fun _ role' hrole => ?_⟩
    · rw [active] at active'
      cases active'
      exact List.mem_singleton_self role
    · rw [List.mem_singleton.mp hrole]
      exact (made_of_buildSpecialist made).1
  | lost _ _ _ =>
    refine ⟨named_of_coordinator rfl, fun _ => rfl, Nat.le_refl _, fun _ role hrole => ?_⟩
    cases hrole

end

end DeskSession

/-! ## New sessions -/

namespace Desk

theorem answers_newSession (out : Outside σ) (d : Desk) : Run.Answers (d.newSession out) := by
  unfold newSession
  refine answers_bind ?_ fun memory => answers_bind (Chat.answers_build out _ _ _ _ _) fun chat =>
    answers_bind answers_get fun w => answers_pure _
  unfold MemoryMode.forNewSession
  split
  · exact answers_pure _
  · exact answers_pure _
  · exact answers_modifyGet _

variable {out : Outside σ} {deadline : Option Nat} {w w₁ : World σ} {d : Desk} {s : DeskSession}

theorem newSession_eq (h : d.newSession out deadline w = (some s, w₁)) : ∃ chat memory,
    s = { coordinator := chat, memory := memory, generation := w₁.registry.generation } ∧ chat.history = [] := by
  unfold newSession at h
  obtain ⟨memory, _, -, h⟩ := bind_eq_some.mp h
  obtain ⟨chat, _, built, h⟩ := bind_eq_some.mp h
  obtain ⟨_, _, got, h⟩ := bind_eq_some.mp h
  cases got
  cases h
  exact ⟨chat, memory, rfl, Chat.build_history built⟩

theorem newSession_pending (h : d.newSession out deadline w = (some s, w₁)) : s.pending = none := by
  obtain ⟨_, _, rfl, -⟩ := newSession_eq h
  rfl

theorem newSession_coherent (h : d.newSession out deadline w = (some s, w₁)) :
    s.Coherent w₁.registry := by
  obtain ⟨_, _, rfl, -⟩ := newSession_eq h
  refine ⟨DeskSession.named_of_coordinator rfl, fun _ => rfl, Nat.le_refl _, fun _ role hrole => ?_⟩
  cases hrole

end Desk

end Concierge
