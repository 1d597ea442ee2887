import Concierge.Handoff.Desk
import Concierge.Proofs.Turn

/-!
# What leaves the registry steady

Two registries are `Steady` if they define the same specialists with the same tools, under the same
generation; what was made from the definitions may differ. Whatever a turn does, and whatever else is
done for a session, leaves the registry steady: only a new configuration changes it.
-/

namespace Concierge

open Run

variable {σ : Type}

structure Registry.Steady (r r' : Registry) : Prop where
  defaultModel : r'.defaultModel = r.defaultModel
  limits : r'.limits = r.limits
  backend : r'.backend = r.backend
  generation : r'.generation = r.generation
  definitions : r'.definitions = r.definitions
  toolboxes : r'.toolboxes = r.toolboxes

namespace Registry.Steady

theorem refl (r : Registry) : r.Steady r := ⟨rfl, rfl, rfl, rfl, rfl, rfl⟩

theorem trans {r₁ r₂ r₃ : Registry} (h : r₁.Steady r₂) (h' : r₂.Steady r₃) : r₁.Steady r₃ where
  defaultModel := h'.defaultModel.trans h.defaultModel
  limits := h'.limits.trans h.limits
  backend := h'.backend.trans h.backend
  generation := h'.generation.trans h.generation
  definitions := h'.definitions.trans h.definitions
  toolboxes := h'.toolboxes.trans h.toolboxes

theorem symm {r r' : Registry} (h : r.Steady r') : r'.Steady r where
  defaultModel := h.defaultModel.symm
  limits := h.limits.symm
  backend := h.backend.symm
  generation := h.generation.symm
  definitions := h.definitions.symm
  toolboxes := h.toolboxes.symm

theorem roles {r r' : Registry} (h : r.Steady r') : r'.roles = r.roles := by
  unfold Registry.roles
  rw [h.definitions]

end Registry.Steady

namespace Registry

theorem steady_addProvider (r : Registry) (model : String) : r.Steady (r.addProvider model).2 :=
  ⟨rfl, rfl, rfl, rfl, rfl, rfl⟩

theorem steady_addAgent (r : Registry) (role : String) (a : Agent) : r.Steady (r.addAgent role a).2 :=
  ⟨rfl, rfl, rfl, rfl, rfl, rfl⟩

theorem steady_setTask (r : Registry) (role : String) (serial : Nat) (task : String) :
    r.Steady (r.setTask role serial task) := by
  unfold setTask
  split
  · split
    · exact ⟨rfl, rfl, rfl, rfl, rfl, rfl⟩
    · exact Steady.refl _
  · exact Steady.refl _

end Registry

def World.Steady (w w' : World σ) : Prop := w.registry.Steady w'.registry

namespace World

theorem Steady.refl (w : World σ) : w.Steady w := Registry.Steady.refl w.registry

theorem Steady.of_eq {w w' : World σ} (h : w'.registry = w.registry) : w.Steady w' := by
  unfold Steady
  rw [h]
  exact Registry.Steady.refl _

variable (out : Outside σ)

theorem access_registry {α : Type} (store : StoreId) (chat : ChatId) (op : Memory.Operation α)
    (w : World σ) : (access out store chat op w).2.registry = w.registry := by
  unfold access
  split <;> rfl

theorem closeStore_registry (id : StoreId) (w : World σ) :
    (closeStore out id w).registry = w.registry := by
  unfold closeStore
  split <;> rfl

theorem closeAll_registry (a : Adapters) (w : World σ) : (closeAll out a w).registry = w.registry := by
  unfold closeAll
  induction a.list generalizing w with
  | nil => rfl
  | cons id ids ih => rw [List.foldl_cons, ih, closeStore_registry]

omit out

theorem openStore_registry (kind : StoreKind) (opened : List (StoreKind × StoreId)) (w : World σ) :
    (openStore kind opened w).2.2.registry = w.registry := by
  unfold openStore
  split <;> rfl

theorem openAll_registry (plan : StorePlan) (w : World σ) : (openAll plan w).2.registry = w.registry := by
  obtain ⟨conversation, facts, summaries⟩ := plan
  cases conversation <;> cases facts <;> cases summaries <;> simp [openAll, openStore_registry]

end World

/-! ## Runs -/

/-- A relation between worlds that allows every small step of a session: those of turns, and opening the
stores of the session. -/
structure DeskDrift (out : Outside σ) (R : World σ → World σ → Prop) : Prop
    extends TurnDrift out (fun _ => True) R where
  openStores : ∀ plan, Along R (.modifyGet (World.openAll plan))

section
variable (out : Outside σ)

theorem steady_deskDrift : DeskDrift out World.Steady where
  trans := Registry.Steady.trans
  clock w _ := World.Steady.refl w
  outside w _ _ := World.Steady.refl w
  facts store chat op _ _ := along_modifyGet fun w => World.Steady.of_eq (World.access_registry out store chat op w)
  record store chat _ _ := along_modifyGet fun w => World.Steady.of_eq (World.access_registry out store chat _ w)
  addProvider w model := w.registry.steady_addProvider model
  addAgent w role a _ := w.registry.steady_addAgent role a
  setTask w role serial task := w.registry.steady_setTask role serial task
  openStores plan := along_modifyGet fun w => World.Steady.of_eq (World.openAll_registry plan w)

theorem Chat.answers_build (config : ChatConfig) (p : Provider) (tools : Toolbox) (memory : Adapters)
    (registry : Bool) : Answers (Chat.build out config p tools memory registry) := by
  unfold Chat.build Chat.make
  refine answers_bind ?_ fun chat => answers_bind answers_get fun w => answers_pure _
  split
  · exact answers_bind (answers_modifyGet _) fun id => answers_pure _
  · exact answers_pure _

theorem DeskSession.along_buildSpecialist {out : Outside σ} {own : ChatId → Prop} {R : World σ → World σ → Prop}
    (hR : AgentDrift out own R) (role : String) (memory : Adapters) :
    Along R (DeskSession.buildSpecialist out role memory) := by
  unfold DeskSession.buildSpecialist
  refine along_bind hR.toDrift (along_get hR.toDrift) fun w => ?_
  split
  · exact along_pure hR.toDrift _
  · refine along_bind hR.toDrift (World.along_provider hR _) fun p => ?_
    split
    · exact along_pure hR.toDrift _
    · exact along_bind hR.toDrift (Chat.along_build hR.toDrift _ _ _ _ _) fun chat => along_pure hR.toDrift _

/-- What sessions open for themselves from now on. Whoever opens it may choose anew each time. -/
def MemoryMode.replan (plan : StorePlan) : MemoryMode → MemoryMode
  | perSession _ => perSession plan
  | mode => mode

theorem MemoryMode.replan_replan (plan later : StorePlan) (mode : MemoryMode) :
    (mode.replan plan).replan later = mode.replan later := by
  cases mode <;> rfl

theorem MemoryMode.exists_replan_eq (mode : MemoryMode) : ∃ plan, mode.replan plan = mode := by
  cases mode with
  | none | shared _ => exact ⟨{}, rfl⟩
  | perSession plan => exact ⟨plan, rfl⟩

theorem MemoryMode.replan_eq_shared {plan : StorePlan} {mode : MemoryMode} {memory : Adapters} :
    mode.replan plan = .shared memory ↔ mode = .shared memory := by
  cases mode <;> simp [replan]

theorem MemoryMode.perSession_of_replan {plan later : StorePlan} {mode : MemoryMode}
    (own : mode.replan plan = .perSession later) : ∃ earlier, mode = .perSession earlier := by
  cases mode with
  | none | shared _ => cases own
  | perSession earlier => exact ⟨earlier, rfl⟩

theorem MemoryMode.along_forNewSession {R : World σ → World σ → Prop} {out : Outside σ} (hR : Drift out R)
    (opens : ∀ plan, Along R (.modifyGet (World.openAll plan))) (mode : MemoryMode) : Along R mode.forNewSession := by
  unfold MemoryMode.forNewSession
  split
  · exact along_pure hR _
  · exact along_pure hR _
  · exact opens _

theorem Desk.along_newSession {out : Outside σ} {R : World σ → World σ → Prop} (hR : Drift out R)
    (opens : ∀ plan, Along R (.modifyGet (World.openAll plan))) (d : Desk) : Along R (d.newSession out) := by
  unfold Desk.newSession
  refine along_bind hR (MemoryMode.along_forNewSession hR opens _) fun memory => ?_
  refine along_bind hR (Chat.along_build hR _ _ _ _ _) fun chat => ?_
  exact along_bind hR (along_get hR) fun w => along_pure hR _

section
variable {out : Outside σ} {R : World σ → World σ → Prop} (hR : DeskDrift out R)
include hR

theorem Chat.along_message (c : Chat) (message : String) : Along R (c.turn out message) :=
  along_turn hR.toTurnDrift (fun _ _ => trivial) message

namespace DeskSession

theorem along_refresh (s : DeskSession) : Along R (s.refresh out) := by
  unfold refresh
  refine along_bind hR.toDrift (along_get hR.toDrift) fun w => ?_
  split
  · exact along_pure hR.toDrift _
  · dsimp only
    split
    · exact along_pure hR.toDrift _
    · refine along_bind hR.toDrift (along_buildSpecialist hR.toAgentDrift _ _) fun found => ?_
      cases found <;> exact along_pure hR.toDrift _

theorem along_startHandoff (s : DeskSession) (role context : String) : Along R (s.startHandoff out role context) := by
  unfold startHandoff
  split
  · exact along_pure hR.toDrift _
  · refine along_bind hR.toDrift (along_buildSpecialist hR.toAgentDrift _ _) fun found => ?_
    cases found <;> exact along_pure hR.toDrift _

theorem along_askCoordinator (s : DeskSession) (message : String) : Along R (s.askCoordinator out message) :=
  along_bind hR.toDrift (Chat.along_message hR _ _) fun _ => along_pure hR.toDrift _

theorem along_dispatch (s : DeskSession) (message : String) : Along R (s.dispatch out message) := by
  unfold dispatch
  split
  · exact along_askCoordinator hR s message
  · split
    · exact along_askCoordinator hR s message
    · exact along_bind hR.toDrift (Chat.along_message hR _ _) fun _ => along_pure hR.toDrift _

theorem along_act (s : DeskSession) (d : Dispatch) : Along R (s.act out d) := by
  unfold act
  dsimp only
  split
  · exact along_pure hR.toDrift _
  · exact along_pure hR.toDrift _
  · refine along_bind hR.toDrift (along_startHandoff hR s _ _) fun started => ?_
    split <;> exact along_pure hR.toDrift _
  · split <;> exact along_pure hR.toDrift _

theorem along_route (message : String) (hops : Nat) (s : DeskSession) : Along R (route out message hops s) := by
  induction hops generalizing s with
  | zero => exact along_pure hR.toDrift _
  | succ hops ih =>
    unfold route
    refine along_bind hR.toDrift (along_dispatch hR s message) fun dispatched => ?_
    refine along_bind hR.toDrift (along_act hR _ _) fun acted => ?_
    obtain ⟨next, d, s⟩ := acted
    cases next with
    | reply text => exact along_pure hR.toDrift _
    | goOn => exact along_bind hR.toDrift (ih s) fun _ => along_pure hR.toDrift _

end DeskSession

namespace Desk

theorem along_session (d : Desk) (id : String) : Along R (d.session out id) := by
  unfold session
  split
  · exact along_pure hR.toDrift _
  · exact along_bind hR.toDrift (along_newSession hR.toDrift hR.openStores d) fun _ => along_pure hR.toDrift _

theorem along_route (d : Desk) (id message : String) : Along R (d.route out id message) := by
  refine along_bind hR.toDrift (along_session hR d id) fun found => ?_
  refine along_bind hR.toDrift (DeskSession.along_refresh hR _) fun s => ?_
  exact along_bind hR.toDrift (DeskSession.along_route hR message maxHops s) fun _ => along_pure hR.toDrift _

theorem along_process (d : Desk) (id message : String) : Along R (d.process out id message) :=
  along_bind hR.toDrift (along_route hR d id message) fun _ => along_pure hR.toDrift _

end Desk

end

theorem MemoryMode.closeSession_registry (mode : MemoryMode) (memory : Adapters) :
    Along (fun w w' => w'.registry = w.registry) (mode.closeSession out memory) := by
  cases mode with
  | none | shared _ => exact fun _ _ => rfl
  | perSession _ => exact fun _ w => World.closeAll_registry out memory w

theorem MemoryMode.close_registry (mode : MemoryMode) (sessions : List Adapters) :
    Along (fun w w' => w'.registry = w.registry) (mode.close out sessions) := by
  cases mode with
  | none => exact fun _ _ => rfl
  | shared memory => exact fun _ w => World.closeAll_registry out memory w
  | perSession _ =>
    intro _ w
    show (sessions.foldl (fun w memory => World.closeAll out memory w) w).registry = w.registry
    induction sessions generalizing w with
    | nil => rfl
    | cons memory sessions ih => rw [List.foldl_cons, ih, World.closeAll_registry]

end

end Concierge
