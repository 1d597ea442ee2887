import Concierge.Proofs.Isolation.Growth

/-!
# Sessions side by side

A message takes the same course on both sides if its sessions are the same up to the names of chats and
stores: the same agents are asked, handoffs go the same way, and the replies are the same
(`Comparison.grows_process`). What is learnt on the way are the names of the chats and stores of the session.
-/

namespace Concierge

open Run

variable {σ τ : Type}

/-! ## Set up alike -/

inductive MemoryMode.Renamed (stores : StoreId → StoreId → Prop) : MemoryMode → MemoryMode → Prop
  | none : Renamed stores .none .none
  | shared {m m'} (h : m.Renamed stores m') : Renamed stores (.shared m) (.shared m')
  | perSession (plan : StorePlan) : Renamed stores (.perSession plan) (.perSession plan)

theorem MemoryMode.Renamed.mono {stores stores' : StoreId → StoreId → Prop} {mode mode' : MemoryMode}
    (h : mode.Renamed stores mode') (more : ∀ {p p'}, stores p p' → stores' p p') : mode.Renamed stores' mode' := by
  cases h with
  | none => exact .none
  | shared h => exact .shared (h.mono more)
  | perSession plan => exact .perSession plan

structure Desk.Renamed (n : Names) (d d' : Desk) : Prop where
  config : d.config = d'.config
  provider : d.provider.Same d'.provider
  tools : d.tools.Renamed n.stores d'.tools
  memory : d.memory.Renamed n.stores d'.memory

structure ChatManager.Renamed (n : Names) (m m' : ChatManager) : Prop where
  config : m.config = m'.config
  provider : m.provider.Same m'.provider
  tools : m.tools.Renamed n.stores m'.tools
  registry : m.registry = m'.registry
  memory : m.memory.Renamed n.stores m'.memory

section
variable {n n' : Names} (more : n.Within n')
include more

theorem Desk.Renamed.mono {d d' : Desk} (h : d.Renamed n d') : d.Renamed n' d' :=
  { h with tools := h.tools.mono more.stores, memory := h.memory.mono more.stores }

theorem ChatManager.Renamed.mono {m m' : ChatManager} (h : m.Renamed n m') : m.Renamed n' m' :=
  { h with tools := h.tools.mono more.stores, memory := h.memory.mono more.stores }

end

/-- Receptions that are set up alike and have the same session of this id, or none. -/
inductive Reception.Renamed (n : Names) (id : String) : Reception → Reception → Prop
  | desk {d d'} (h : d.Renamed n d')
      (session : Option.Rel (DeskSession.Renamed n) (d.sessions.get? id) (d'.sessions.get? id)) :
      Renamed n id (.desk d) (.desk d')
  | single {m m'} (h : m.Renamed n m')
      (session : Option.Rel (Chat.Renamed n) (m.sessions.get? id) (m'.sessions.get? id)) :
      Renamed n id (.single m) (.single m')

namespace Comparison

variable {C : Comparison σ τ} {n : Names} (hC : C.Impartial)
include hC

/-! ## Chats -/

section
variable {c c' : Chat} (h : c.Renamed n c')
include h

theorem twin_record (m : Message) : (C.bond n).Twin (Chat.Renamed n) (c.record C.out m) (c'.record C.out' m) := by
  have kept : Chat.Renamed n { c with history := c.history ++ [m] } { c' with history := c'.history ++ [m] } :=
    { h with history := by rw [h.history] }
  unfold Chat.record
  obtain ⟨hp, hp'⟩ | ⟨p, p', hp, hp', place⟩ := rel_cases h.memory.conversation
  · rw [hp, hp']
    exact twin_pure kept
  · obtain ⟨hk, hk'⟩ | ⟨k, k', hk, hk', name⟩ := rel_cases h.id
    · rw [hk, hk'] at kept ⊢
      rw [hp, hp']
      exact twin_pure kept
    · rw [hk, hk'] at kept ⊢
      rw [hp, hp']
      exact twin_bind (twin_access hC place name _) fun _ _ _ => twin_pure kept

theorem twin_recordAll (ms : List Message) :
    (C.bond n).Twin (Chat.Renamed n) (c.recordAll C.out ms) (c'.recordAll C.out' ms) := by
  induction ms generalizing c c' with
  | nil => exact twin_pure h
  | cons m ms ih => exact twin_bind (twin_record hC h m) fun _ _ kept => ih kept

theorem twin_chat (message : String) :
    (C.bond n).Twin (fun x y => x.1.outcome = y.1.outcome ∧ x.2.Renamed n y.2) (c.turn C.out message)
      (c'.turn C.out' message) := by
  have callers : (C.bond n).contexts c.toolContext c'.toolContext := h.contexts
  have agents : (C.bond n).Agents c.toolContext c'.toolContext c.agent c'.agent := h.agent.alike h.contexts
  have contents : c.contents = c'.contents := by rw [Chat.contents, Chat.contents, h.history]
  unfold Chat.turn
  rw [contents]
  refine twin_bind (Agent.twin_turn (staffed hC n) callers agents _ _) fun t t' turns => ?_
  cases turns with
  | mk outcome _ => exact twin_bind (twin_recordAll hC h _) fun _ _ kept => twin_pure ⟨rfl, kept⟩

end

section
variable {p p' : Provider} {memory memory' : Adapters}

theorem grows_make {a a' : Agent} (h : a.Renamed n.stores a') (stores : memory.Renamed n.stores memory') :
    C.Grows n Chat.Renamed (Chat.make C.out a memory) (Chat.make C.out' a' memory') := by
  unfold Chat.make
  rw [stores.isPersistent_eq]
  split
  · refine grows_bind (grows_draw hC) (fun _ _ _ => List.prefix_rfl) (fun _ _ _ => List.prefix_rfl)
      fun more named => ?_
    exact grows_pure ⟨h.mono more.stores, rfl, stores.mono more.stores, .some named⟩
  · exact grows_pure ⟨h, rfl, stores, .none⟩

theorem grows_build (config : ChatConfig) (provider : p.Same p') {tools tools' : Toolbox}
    (h : tools.Renamed n.stores tools') (stores : memory.Renamed n.stores memory') (registry : Bool) :
    C.Grows n Chat.Renamed (Chat.build C.out config p tools memory registry)
      (Chat.build C.out' config p' tools' memory' registry) := by
  unfold Chat.build
  dsimp only
  refine grows_bind (grows_make hC ⟨rfl, rfl, rfl, rfl, provider, h, rfl, rfl, rfl⟩ stores)
    (fun _ _ _ => List.prefix_rfl) (fun _ _ _ => List.prefix_rfl) fun {n₁ c c'} _ made => ?_
  refine grows_get fun w w' worlds => ?_
  have roles : w'.registry.roles = w.registry.roles := worlds.registries.steady.roles
  refine grows_pure ?_
  rw [roles]
  split <;> split
  · exact (made.withDelegation _).withMemoryTools
  · exact made.withMemoryTools
  · exact made.withDelegation _
  · exact made

theorem grows_forNewSession {mode mode' : MemoryMode} (h : mode.Renamed n.stores mode') :
    C.Grows n (fun n' m m' => m.Renamed n'.stores m') mode.forNewSession mode'.forNewSession := by
  cases h with
  | none => exact grows_pure ⟨.none, .none, .none⟩
  | shared h => exact grows_pure h
  | perSession plan => exact grows_openAll hC plan

/-! ## Specialists -/

theorem grows_buildSpecialist (role : String) (stores : memory.Renamed n.stores memory') :
    C.Grows n (fun n' => Found (Chat.Renamed n')) (DeskSession.buildSpecialist C.out role memory)
      (DeskSession.buildSpecialist C.out' role memory') := by
  unfold DeskSession.buildSpecialist
  refine grows_get fun w w' worlds => ?_
  rw [worlds.registries.validate_eq]
  cases w.registry.validate role with
  | error e => exact grows_pure (.error e)
  | ok d =>
    dsimp only
    rw [worlds.registries.modelOf_eq, worlds.registries.steady.limits]
    refine grows_twin (twin_provider hC _) (World.along_provider (drawn_deskDrift hC.draws).toAgentDrift _)
      (World.along_provider (drawn_deskDrift hC.draws').toAgentDrift _) fun found found' same => ?_
    cases same with
    | error e => exact grows_pure (.error e)
    | ok provider =>
      have tools := (worlds.toolboxes role).register (.plain (t := .endHandoff) rfl)
      refine grows_bind (grows_build hC _ provider tools stores false) (fun _ _ _ => List.prefix_rfl)
        (fun _ _ _ => List.prefix_rfl) fun _ chats => ?_
      exact grows_pure (.ok chats)

end

section
variable {s s' : DeskSession} (h : s.Renamed n s')
include h

theorem grows_refresh : C.Grows n DeskSession.Renamed (s.refresh C.out) (s'.refresh C.out') := by
  unfold DeskSession.refresh
  refine grows_get fun w w' worlds => ?_
  have generation : w'.registry.generation = w.registry.generation := worlds.registries.steady.generation
  rw [generation, ← h.generation]
  split
  · exact grows_pure h
  · dsimp only
    rw [← h.speaker]
    split
    · exact grows_pure ⟨h.coordinator, rfl, .nil, h.pending, h.memory, rfl⟩
    · refine grows_bind (grows_buildSpecialist hC _ h.memory) (fun found _ _ => ?_) (fun found _ _ => ?_)
        fun more found => ?_
      · cases found <;> exact List.prefix_rfl
      · cases found <;> exact List.prefix_rfl
      · have later := h.mono more
        cases found with
        | error e => exact grows_pure ⟨later.coordinator, rfl, .nil, later.pending, later.memory, rfl⟩
        | ok chats =>
          exact grows_pure ⟨later.coordinator, rfl, .cons ⟨rfl, chats⟩ .nil, later.pending, later.memory, rfl⟩

theorem grows_startHandoff (role context : String) :
    C.Grows n (fun n' x y => x.1 = y.1 ∧ x.2.Renamed n' y.2) (s.startHandoff C.out role context)
      (s'.startHandoff C.out' role context) := by
  have takes {n' : Names} {t t' : DeskSession} (same : t.Renamed n' t') {c c' : Chat} (chats : c.Renamed n' c') :
      DeskSession.Renamed n'
        { t with
          specialists := insertSorted role (DeskSession.addContext context c) t.specialists
          speaker := .specialist role }
        { t' with
          specialists := insertSorted role (DeskSession.addContext context c') t'.specialists
          speaker := .specialist role } :=
    { same with
      speaker := rfl
      specialists := same.specialists.insertSorted role (chats.addContext context) }
  unfold DeskSession.startHandoff
  obtain ⟨hc, hc'⟩ | ⟨c, c', hc, hc', chats⟩ := rel_cases (h.specialists.lookupName role) <;> rw [hc, hc']
  · refine grows_bind (grows_buildSpecialist hC _ h.memory) (fun found _ _ => ?_) (fun found _ _ => ?_)
      fun more found => ?_
    · cases found <;> exact List.prefix_rfl
    · cases found <;> exact List.prefix_rfl
    · cases found with
      | error e => exact grows_pure ⟨rfl, h.mono more⟩
      | ok chats => exact grows_pure ⟨rfl, takes (h.mono more) chats⟩
  · exact grows_pure ⟨rfl, takes h chats⟩

/-! ## Routing -/

theorem twin_askCoordinator (message : String) :
    (C.bond n).Twin (fun x y => x.1.turn.outcome = y.1.turn.outcome ∧ x.2.Renamed n y.2)
      (s.askCoordinator C.out message) (s'.askCoordinator C.out' message) := by
  unfold DeskSession.askCoordinator
  rw [← h.pending]
  refine twin_bind (twin_chat hC h.coordinator _) fun x y both => twin_pure ⟨both.1, ?_⟩
  exact { h with coordinator := both.2, pending := rfl, speaker := rfl }

theorem twin_dispatch (message : String) :
    (C.bond n).Twin (fun x y => x.1.turn.outcome = y.1.turn.outcome ∧ x.2.Renamed n y.2)
      (s.dispatch C.out message) (s'.dispatch C.out' message) := by
  unfold DeskSession.dispatch
  rw [← h.speaker]
  cases s.speaker with
  | coordinator => exact twin_askCoordinator hC h message
  | specialist role =>
    dsimp only
    obtain ⟨hc, hc'⟩ | ⟨c, c', hc, hc', chats⟩ := rel_cases (h.specialists.lookupName role) <;> rw [hc, hc']
    · exact twin_askCoordinator hC h message
    · refine twin_bind (twin_chat hC chats message) fun x y both => twin_pure ⟨both.1, ?_⟩
      exact { h with speaker := rfl, specialists := h.specialists.insertSorted role both.2 }

theorem grows_act {d d' : DeskSession.Dispatch} (same : d.turn.outcome = d'.turn.outcome) :
    C.Grows n (fun n' x y => x.1 = y.1 ∧ x.2.2.Renamed n' y.2.2) (s.act C.out d) (s'.act C.out' d') := by
  unfold DeskSession.act
  rw [← same]
  dsimp only
  split
  · exact grows_pure ⟨rfl, h⟩
  · exact grows_pure ⟨rfl, h⟩
  · refine grows_bind (grows_startHandoff hC h _ _) (fun x _ _ => ?_) (fun x _ _ => ?_) fun {n' x y} _ both => ?_
    · rcases x with ⟨_ | _, _⟩ <;> exact List.prefix_rfl
    · rcases x with ⟨_ | _, _⟩ <;> exact List.prefix_rfl
    · obtain ⟨found, t⟩ := x
      obtain ⟨found', t'⟩ := y
      obtain ⟨answers, sessions⟩ := both
      dsimp only at answers sessions
      subst answers
      cases found <;> exact grows_pure ⟨rfl, sessions⟩
  · rw [← h.speaker]
    split
    · exact grows_pure ⟨rfl, h⟩
    · exact grows_pure ⟨rfl, { h with speaker := rfl, pending := rfl }⟩

theorem grows_route (message : String) (hops : Nat) :
    C.Grows n (fun n' x y => x.1.reply = y.1.reply ∧ x.2.Renamed n' y.2)
      (DeskSession.route C.out message hops s) (DeskSession.route C.out' message hops s') := by
  have left := drawn_deskDrift hC.draws
  have left' := drawn_deskDrift hC.draws'
  -- On the agents that may still be asked, for any names: a handoff may teach some.
  induction hops generalizing n s s' with
  | zero => exact grows_pure ⟨rfl, { h with speaker := rfl }⟩
  | succ hops ih =>
    unfold DeskSession.route
    refine grows_twin (twin_dispatch hC h message) (DeskSession.along_dispatch left s message)
      (DeskSession.along_dispatch left' s' message) fun x y dispatched => ?_
    refine grows_bind (grows_act hC dispatched.2 dispatched.1) (fun x => ?_) (fun x => ?_) fun {n' x y} _ acted => ?_
    · rcases x with ⟨_ | _, d, t⟩
      · exact along_bind left.toDrift (DeskSession.along_route left message hops t) fun _ => along_pure left.toDrift _
      · exact along_pure left.toDrift _
    · rcases x with ⟨_ | _, d, t⟩
      · exact along_bind left'.toDrift (DeskSession.along_route left' message hops t) fun _ => along_pure left'.toDrift _
      · exact along_pure left'.toDrift _
    · obtain ⟨next, d, t⟩ := x
      obtain ⟨next', d', t'⟩ := y
      obtain ⟨nexts, sessions⟩ := acted
      dsimp only at nexts sessions
      subst nexts
      cases next with
      | reply text => exact grows_pure ⟨rfl, sessions⟩
      | goOn =>
        refine grows_bind (ih sessions) (fun _ _ _ => List.prefix_rfl) (fun _ _ _ => List.prefix_rfl) fun _ both => ?_
        exact grows_pure both

end

/-! ## Receptions -/

section
variable {d d' : Desk} (h : d.Renamed n d')
include h

theorem grows_newSession : C.Grows n DeskSession.Renamed (d.newSession C.out) (d'.newSession C.out') := by
  have left := (drawn_deskDrift hC.draws).toDrift
  have left' := (drawn_deskDrift hC.draws').toDrift
  unfold Desk.newSession
  dsimp only
  rw [← h.config]
  refine grows_bind (grows_forNewSession hC h.memory)
    (fun _ => along_bind left (Chat.along_build left _ _ _ _ _) fun _ _ _ => List.prefix_rfl)
    (fun _ => along_bind left' (Chat.along_build left' _ _ _ _ _) fun _ _ _ => List.prefix_rfl) fun more stores => ?_
  have tools := (h.mono more).tools.register (.plain (t := .requestHandoff .registry) rfl)
  refine grows_bind (grows_build hC _ h.provider tools stores true) (fun _ _ _ => List.prefix_rfl)
    (fun _ _ _ => List.prefix_rfl) fun more' chats => ?_
  refine grows_get fun w w' worlds => ?_
  exact grows_pure ⟨chats, rfl, .nil, rfl, stores.mono more'.stores, worlds.registries.steady.generation.symm⟩

variable {id : String} (session : Option.Rel (DeskSession.Renamed n) (d.sessions.get? id) (d'.sessions.get? id))
include session

theorem grows_session :
    C.Grows n (fun n' x y => x.1.Renamed n' y.1 ∧ x.2.Renamed n' y.2) (d.session C.out id) (d'.session C.out' id) := by
  unfold Desk.session
  obtain ⟨hs, hs'⟩ | ⟨s, s', hs, hs', same⟩ := rel_cases session <;> rw [hs, hs']
  · refine grows_bind (grows_newSession hC h) (fun _ _ _ => List.prefix_rfl) (fun _ _ _ => List.prefix_rfl)
      fun more same => ?_
    exact grows_pure ⟨same, { h.mono more with }⟩
  · exact grows_pure ⟨same, h⟩

theorem grows_desk (message : String) :
    C.Grows n (fun n' x y => x.1 = y.1 ∧ Reception.Renamed n' id (.desk x.2) (.desk y.2))
      (d.process C.out id message) (d'.process C.out' id message) := by
  have left := drawn_deskDrift hC.draws
  have left' := drawn_deskDrift hC.draws'
  have still {x : World σ} : C.drawn x.outside <+: C.drawn x.outside := List.prefix_rfl
  have routed : C.Grows n (fun n' x y => x.1.reply = y.1.reply ∧ Reception.Renamed n' id (.desk x.2) (.desk y.2))
      (d.route C.out id message) (d'.route C.out' id message) := by
    unfold Desk.route
    refine grows_bind (grows_session hC h session) (fun x => ?_) (fun x => ?_) fun {n₁ x y} _ opened => ?_
    · refine along_bind left.toDrift (DeskSession.along_refresh left x.1) fun s => ?_
      exact along_bind left.toDrift (DeskSession.along_route left message Desk.maxHops s) fun _ _ _ => List.prefix_rfl
    · refine along_bind left'.toDrift (DeskSession.along_refresh left' x.1) fun s => ?_
      exact along_bind left'.toDrift (DeskSession.along_route left' message Desk.maxHops s) fun _ _ _ => List.prefix_rfl
    obtain ⟨sessions, desks⟩ := opened
    refine grows_bind (grows_refresh hC sessions) (fun s => ?_) (fun s => ?_) fun {n₂ s s'} more refreshed => ?_
    · exact along_bind left.toDrift (DeskSession.along_route left message Desk.maxHops s) fun _ _ _ => List.prefix_rfl
    · exact along_bind left'.toDrift (DeskSession.along_route left' message Desk.maxHops s) fun _ _ _ => List.prefix_rfl
    refine grows_bind (grows_route hC refreshed message Desk.maxHops) (fun _ _ _ => List.prefix_rfl)
      (fun _ _ _ => List.prefix_rfl) fun {n₃ r r'} more' replied => ?_
    refine grows_pure ⟨replied.1, .desk { desks.mono (more.trans more') with } ?_⟩
    rw [Table.get?_put, Table.get?_put, if_pos rfl, if_pos rfl]
    exact .some replied.2
  refine grows_bind routed (fun _ _ _ => List.prefix_rfl) (fun _ _ _ => List.prefix_rfl) fun _ both => ?_
  exact grows_pure both

end

section
variable {m m' : ChatManager} (h : m.Renamed n m') {id : String}
  (session : Option.Rel (Chat.Renamed n) (m.sessions.get? id) (m'.sessions.get? id))
include h session

theorem grows_find :
    C.Grows n (fun n' x y => x.1.Renamed n' y.1 ∧ x.2.Renamed n' y.2) (m.chat C.out id) (m'.chat C.out' id) := by
  have left := (drawn_deskDrift hC.draws).toDrift
  have left' := (drawn_deskDrift hC.draws').toDrift
  unfold ChatManager.chat
  obtain ⟨hc, hc'⟩ | ⟨c, c', hc, hc', same⟩ := rel_cases session <;> rw [hc, hc']
  · dsimp only
    rw [← h.config, ← h.registry]
    refine grows_bind (grows_forNewSession hC h.memory)
      (fun _ => along_bind left (Chat.along_build left _ _ _ _ _) fun _ _ _ => List.prefix_rfl)
      (fun _ => along_bind left' (Chat.along_build left' _ _ _ _ _) fun _ _ _ => List.prefix_rfl) fun more stores => ?_
    refine grows_bind (grows_build hC _ h.provider (h.mono more).tools stores _) (fun _ _ _ => List.prefix_rfl)
      (fun _ _ _ => List.prefix_rfl) fun more' chats => ?_
    exact grows_pure ⟨chats, { h.mono (more.trans more') with config := rfl, registry := rfl }⟩
  · exact grows_pure ⟨same, h⟩

theorem grows_single (message : String) :
    C.Grows n (fun n' x y => x.1 = y.1 ∧ Reception.Renamed n' id (.single x.2) (.single y.2))
      (m.process C.out id message) (m'.process C.out' id message) := by
  have left := drawn_deskDrift hC.draws
  have left' := drawn_deskDrift hC.draws'
  unfold ChatManager.process
  refine grows_bind (grows_find hC h session)
    (fun x => along_bind left.toDrift (Chat.along_message left x.1 message) fun _ _ _ => List.prefix_rfl)
    (fun x => along_bind left'.toDrift (Chat.along_message left' x.1 message) fun _ _ _ => List.prefix_rfl)
    fun {n₁ x y} _ found => ?_
  refine grows_twin (twin_chat hC found.1 message) (Chat.along_message left x.1 message)
    (Chat.along_message left' y.1 message) fun t t' both => ?_
  refine grows_pure ⟨congrArg TurnOutcome.text both.1, .single { found.2 with } ?_⟩
  unfold ChatManager.setChat
  rw [Table.get?_put, Table.get?_put, if_pos rfl, if_pos rfl]
  exact .some both.2

end

/-- **A message takes the same course**, whatever else there is on the two sides. -/
theorem grows_process {r r' : Reception} {id : String} (h : r.Renamed n id r') (message : String) :
    C.Grows n (fun n' x y => x.1 = y.1 ∧ Reception.Renamed n' id x.2 y.2) (r.process C.out id message)
      (r'.process C.out' id message) := by
  cases h with
  | desk h session =>
    refine grows_bind (grows_desk hC h session message) (fun _ _ _ => List.prefix_rfl) (fun _ _ _ => List.prefix_rfl)
      fun _ both => ?_
    exact grows_pure both
  | single h session =>
    refine grows_bind (grows_single hC h session message) (fun _ _ _ => List.prefix_rfl) (fun _ _ _ => List.prefix_rfl)
      fun _ both => ?_
    exact grows_pure both

end Comparison

end Concierge
