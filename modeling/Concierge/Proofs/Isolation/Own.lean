import Concierge.Proofs.Handoff.Course
import Concierge.Proofs.Isolation.Frame

/-!
# A session's own chats

A session works in its own chats and in those that are made for it. If chat ids never repeat, those are
new. So nothing that is done for a session touches the chats of another (`Ends.spares`, `Opens.spares`).
-/

namespace Concierge

open Run

variable {σ β : Type}

/-- A list of all chat ids drawn so far. -/
structure Outside.Draws (out : Outside σ) (drawn : σ → List ChatId) : Prop where
  drawChatId : ∀ s, drawn (out.drawChatId s).2 = drawn s ++ [(out.drawChatId s).1]
  createModel : ∀ model s, drawn (out.createModel model s).2 = drawn s
  generate : ∀ p r s, drawn (out.generate p r s).2 = drawn s
  callTool : ∀ key args c s, drawn (out.callTool key args c s).2 = drawn s
  send : ∀ r s, drawn (out.send r s).2 = drawn s
  jitter : ∀ s, drawn (out.jitter s).2 = drawn s
  access : ∀ {α : Type} key chat (op : Memory.Operation α) s, drawn (out.access key chat op s).2 = drawn s
  closeStore : ∀ key s, drawn (out.closeStore key s).2 = drawn s

section
variable {out : Outside σ} {drawn : σ → List ChatId} (hd : out.Draws drawn)
include hd

theorem Outside.Draws.moves {s o : σ} (h : out.Moves s o) : drawn s <+: drawn o := by
  cases h with
  | drawChatId => exact ⟨_, (hd.drawChatId s).symm⟩
  | createModel => exact (hd.createModel _ s).symm ▸ List.prefix_rfl
  | generate => exact (hd.generate _ _ s).symm ▸ List.prefix_rfl
  | callTool => exact (hd.callTool _ _ _ s).symm ▸ List.prefix_rfl
  | send => exact (hd.send _ s).symm ▸ List.prefix_rfl
  | jitter => exact (hd.jitter s).symm ▸ List.prefix_rfl

theorem World.drawn_access {α : Type} (store : StoreId) (chat : ChatId) (op : Memory.Operation α) (w : World σ) :
    drawn (access out store chat op w).2.outside = drawn w.outside := by
  unfold access
  split
  · rfl
  · rfl
  · exact hd.access _ _ _ _
  · rfl

omit hd in
theorem World.outside_openAll (plan : StorePlan) (w : World σ) : (openAll plan w).2.outside = w.outside := by
  have one (kind : Option StoreKind) (opened : List (StoreKind × StoreId)) (w : World σ) :
      (openTrack kind opened w).2.2.outside = w.outside := by
    cases kind with
    | none => rfl
    | some kind =>
      dsimp only [openTrack]
      unfold openStore
      split <;> rfl
  rw [openAll_eq]
  dsimp only
  rw [one, one, one]

theorem drawn_deskDrift : DeskDrift out fun w w' => drawn w.outside <+: drawn w'.outside where
  trans h h' := h.trans h'
  clock _ _ := List.prefix_refl _
  outside _ _ moved := hd.moves moved
  facts store _ op _ _ := along_modifyGet fun w => (World.drawn_access hd store _ op w).symm ▸ List.prefix_rfl
  addProvider _ _ := List.prefix_refl _
  addAgent _ _ _ _ := List.prefix_refl _
  setTask _ _ _ _ := List.prefix_refl _
  record store _ m _ := along_modifyGet fun w => (World.drawn_access hd store _ (.append m) w).symm ▸ List.prefix_rfl
  openStores plan := along_modifyGet fun w => (World.outside_openAll plan w).symm ▸ List.prefix_rfl

end

/-! ## New chats -/

/-- Up to the draws of `L` no chat of `P` is drawn that was not drawn in `l`. -/
def Clear (P : ChatId → Prop) (L l : List ChatId) : Prop := ∀ k, P k → k ∈ L → k ∈ l

section
variable {P : ChatId → Prop} {L l l' : List ChatId}

theorem Clear.later (h : Clear P L l) (more : l <+: l') : Clear P L l' :=
  fun k hk drawn => more.subset (h k hk drawn)

theorem Clear.new (h : Clear P L l) (once : L.Nodup) {id : ChatId} (drawn : l ++ [id] <+: L) : ¬ P id := by
  intro foreign
  have inside : id ∈ L := drawn.subset (List.mem_append_right _ (List.mem_singleton_self id))
  have before := h id foreign inside
  have distinct := List.nodup_append.mp (once.sublist drawn.sublist)
  exact distinct.2.2 id before id (List.mem_singleton_self id) rfl

end

def Chat.Apart (P : ChatId → Prop) (c : Chat) : Prop := ∀ id, c.id = some id → ¬ P id

section
variable {out : Outside σ} {drawn : σ → List ChatId} {view : Nat → ChatId → σ → β} {P : ChatId → Prop}
  {L : List ChatId} {deadline : Option Nat} {w w' : World σ}

theorem Chat.id_build {config : ChatConfig} {p : Provider} {tools : Toolbox} {memory : Adapters} {registry : Bool}
    {c : Chat} (hd : out.Draws drawn)
    (h : build out config p tools memory registry deadline w = (some c, w')) :
    c.memory = memory ∧ ∀ id, c.id = some id → drawn w'.outside = drawn w.outside ++ [id] := by
  obtain ⟨kept, -, drew⟩ := build_new h
  refine ⟨kept, fun id known => ?_⟩
  split at drew
  · obtain ⟨new, rfl⟩ := drew
    rw [known] at new
    cases new
    exact hd.drawChatId _
  · rw [drew.1] at known
    cases known

theorem Chat.apart_build {config : ChatConfig} {p : Provider} {tools : Toolbox} {memory : Adapters} {registry : Bool}
    {c : Chat} (hd : out.Draws drawn) (once : L.Nodup) (clear : Clear P L (drawn w.outside))
    (within : drawn w'.outside <+: L)
    (h : build out config p tools memory registry deadline w = (some c, w')) :
    c.Apart P ∧ c.memory = memory := by
  obtain ⟨kept, drew⟩ := id_build hd h
  refine ⟨fun id known => ?_, kept⟩
  rw [drew id known] at within
  exact clear.new once within

theorem DeskSession.apart_buildSpecialist {role : String} {memory : Adapters} {chat : Chat}
    (hd : out.Draws drawn) (once : L.Nodup) (clear : Clear P L (drawn w.outside)) (within : drawn w'.outside <+: L)
    (h : buildSpecialist out role memory deadline w = (some (.ok chat), w')) :
    chat.Apart P ∧ chat.memory = memory := by
  obtain ⟨sp, p, w₂, -, provided, built⟩ := buildSpecialist_eq_ok h
  have given : (Run.modifyGet (World.provider out (w.registry.modelOf sp))) deadline w = (some (.ok p), w₂) := by
    rw [modifyGet_run, provided]
  have grown := (World.along_provider (drawn_deskDrift hd).toAgentDrift _).of_run given
  exact Chat.apart_build hd once (clear.later grown) within built

end

theorem mem_entries_of_lookupName {α : Type} {k : String} {v : α} {ms : List (String × α)}
    (h : lookupName k ms = some v) : v ∈ ms.map (·.2) := by
  induction ms with
  | nil => cases h
  | cons m ms ih =>
    unfold lookupName at h
    split at h
    · cases h
      exact List.mem_cons_self
    · exact List.mem_cons_of_mem _ (ih h)

/-! ## Calls -/

namespace DeskSession

def chats (s : DeskSession) : List Chat := s.coordinator :: s.specialists.map (·.2)

/-- The session has its memory in its own stores, under ids that are not in `P`. -/
structure Own (P : ChatId → Prop) (s : DeskSession) : Prop where
  apart : ∀ c ∈ s.chats, c.Apart P
  memory : ∀ c ∈ s.chats, c.memory = s.memory

section
variable {P : ChatId → Prop} {s : DeskSession} {role : String} {c c' : Chat}

theorem Own.known (h : s.Own P) (known : lookupName role s.specialists = some c) : c.Apart P ∧ c.memory = s.memory :=
  have inside := List.mem_cons_of_mem _ (mem_entries_of_lookupName known)
  ⟨h.apart c inside, h.memory c inside⟩

theorem Own.insert (h : s.Own P) (apart : c.Apart P) (memory : c.memory = s.memory) (x : Speaker) :
    { s with specialists := insertSorted role c s.specialists, speaker := x }.Own P := by
  have cases {y : Chat} (hy : y ∈ s.coordinator :: (insertSorted role c s.specialists).map (·.2)) :
      y = c ∨ y ∈ s.chats := by
    rcases List.mem_cons.mp hy with rfl | hy
    · exact Or.inr List.mem_cons_self
    · exact (mem_entries_insertSorted hy).imp_right (List.mem_cons_of_mem _)
  refine ⟨fun y hy => ?_, fun y hy => ?_⟩
  · rcases cases hy with rfl | hy
    · exact apart
    · exact h.apart y hy
  · rcases cases hy with rfl | hy
    · exact memory
    · exact h.memory y hy

theorem Own.dropped (h : s.Own P) (generation : Nat) (x : Speaker) :
    { s with generation := generation, specialists := [], speaker := x }.Own P := by
  have coordinator {y : Chat} (hy : y ∈ [s.coordinator]) : y ∈ s.chats :=
    List.mem_singleton.mp hy ▸ List.mem_cons_self
  exact ⟨fun y hy => h.apart y (coordinator hy), fun y hy => h.memory y (coordinator hy)⟩

end

section
variable {out : Outside σ} {drawn : σ → List ChatId} {view : Nat → ChatId → σ → β} {P : ChatId → Prop}
  {L : List ChatId} {message : String} {deadline : Option Nat} {s s₁ : DeskSession} {w w₁ : World σ}
  {d : Dispatch} {signal : Option Signal} {accepted : Option Pending}

theorem Hop.own (h : Hop out message deadline s w d s₁ w₁) (own : s.Own P) : s₁.Own P := by
  cases h with
  | coordinator active taken =>
    have same := Chat.turn_chat taken
    have first := own.apart _ List.mem_cons_self
    have memory := own.memory _ List.mem_cons_self
    refine ⟨fun y hy => ?_, fun y hy => ?_⟩
    · rcases List.mem_cons.mp hy with rfl | hy
      · rw [same]
        exact first
      · exact own.apart y (List.mem_cons_of_mem _ hy)
    · rcases List.mem_cons.mp hy with rfl | hy
      · rw [same]
        exact memory
      · exact own.memory y (List.mem_cons_of_mem _ hy)
  | @specialist role chat turn _ _ active known taken =>
    have same := Chat.turn_chat taken
    obtain ⟨apart, memory⟩ := own.known known
    subst same
    exact own.insert (c := { chat with history := chat.history ++ Chat.messagesOf message turn.outcome }) apart
      memory s.speaker

section
variable (keeps : out.Keeps view)
include keeps

theorem Hop.spares (h : Hop out message deadline s w d s₁ w₁) (own : s.Own P) : w.Spares view P w₁ := by
  cases h with
  | coordinator active taken =>
    exact (Chat.along_turn (spares_turnDrift keeps P) (own.apart _ List.mem_cons_self) _).of_run taken
  | specialist active known taken =>
    exact (Chat.along_turn (spares_turnDrift keeps P) (own.known known).1 _).of_run taken

theorem Silent.spares (h : Silent out message deadline s w w₁) (own : s.Own P) : w.Spares view P w₁ := by
  cases h with
  | coordinator active cut =>
    exact (Chat.along_turn (spares_turnDrift keeps P) (own.apart _ List.mem_cons_self) _).of_run cut
  | specialist active known cut =>
    exact (Chat.along_turn (spares_turnDrift keeps P) (own.known known).1 _).of_run cut

end

theorem Onward.own_of_built (h : Onward out deadline s w signal accepted s₁ w₁) (own : s.Own P)
    (built : ∀ {role chat}, buildSpecialist out role s.memory deadline w = (some (.ok chat), w₁) →
      chat.Apart P ∧ chat.memory = s.memory) : s₁.Own P := by
  cases h with
  | @known _ context chat has =>
    obtain ⟨apart, memory⟩ := own.known has
    exact own.insert (c := addContext context chat) apart memory _
  | @built _ context chat _ new made =>
    obtain ⟨apart, memory⟩ := built made
    exact own.insert (c := addContext context chat) apart memory _
  | ended active => exact ⟨own.apart, own.memory⟩

theorem Refreshes.own_of_built (h : Refreshes out deadline s w s₁ w₁) (own : s.Own P)
    (built : ∀ {role chat}, buildSpecialist out role s.memory deadline w = (some (.ok chat), w₁) →
      chat.Apart P ∧ chat.memory = s.memory) : s₁.Own P := by
  cases h with
  | current => exact own
  | dropped stale active => exact own.dropped _ _
  | lost stale active failed => exact own.dropped _ _
  | @rebuilt role chat _ stale active made =>
    obtain ⟨apart, memory⟩ := built made
    have added : { s with generation := w.registry.generation, specialists := insertSorted role chat [] }.Own P :=
      (own.dropped w.registry.generation s.speaker).insert apart memory s.speaker
    exact added

variable (hd : out.Draws drawn) (once : L.Nodup)
include hd once

theorem Onward.own (h : Onward out deadline s w signal accepted s₁ w₁) (own : s.Own P)
    (clear : Clear P L (drawn w.outside)) (within : drawn w₁.outside <+: L) : s₁.Own P :=
  h.own_of_built own fun made => apart_buildSpecialist hd once clear within made

theorem Refreshes.own (h : Refreshes out deadline s w s₁ w₁) (own : s.Own P)
    (clear : Clear P L (drawn w.outside)) (within : drawn w₁.outside <+: L) : s₁.Own P :=
  h.own_of_built own fun made => apart_buildSpecialist hd once clear within made

variable (keeps : out.Keeps view)
include keeps

theorem Passes.spares {ds : List Dispatch} (h : Passes out message deadline s w ds s₁ w₁) (own : s.Own P)
    (clear : Clear P L (drawn w.outside)) (within : drawn w₁.outside <+: L) : w.Spares view P w₁ ∧ s₁.Own P := by
  -- Along the hops. A chat that is made on the way is drawn within `L`, so it is an own chat from then on.
  induction h with
  | nil => exact ⟨.refl _, own⟩
  | cons hop on rest ih =>
    have grown := hop.along (drawn_deskDrift hd)
    have grown' := on.along (drawn_deskDrift hd).toAgentDrift
    have left := rest.along (drawn_deskDrift hd)
    have owned := on.own hd once (hop.own own) (clear.later grown) (left.trans within)
    obtain ⟨spared, owned'⟩ := ih owned (clear.later (grown.trans grown')) within
    have handed := on.along (spares_turnDrift keeps P).toAgentDrift
    exact ⟨((hop.spares keeps own).trans handed).trans spared, owned'⟩

theorem Ends.spares {hops : Nat} {result : Option (Routed × DeskSession)}
    (h : Ends out message deadline hops s w result w₁) (own : s.Own P) (clear : Clear P L (drawn w.outside))
    (within : drawn w₁.outside <+: L) : w.Spares view P w₁ ∧ ∀ r s', result = some (r, s') → s'.Own P := by
  cases h with
  | spent passes all =>
    obtain ⟨spared, owned⟩ := passes.spares hd once keeps own clear within
    refine ⟨spared, fun r s' same => ?_⟩
    cases same
    exact ⟨owned.apart, owned.memory⟩
  | answered passes left hop stays last =>
    have grown := hop.along (drawn_deskDrift hd)
    have grown' := stays.along (drawn_deskDrift hd).toAgentDrift
    obtain ⟨spared, owned⟩ := passes.spares hd once keeps own clear ((grown.trans grown').trans within)
    have stayed := stays.along (spares_turnDrift keeps P).toAgentDrift
    refine ⟨(spared.trans (hop.spares keeps owned)).trans stayed, fun r s' same => ?_⟩
    cases same
    exact hop.own owned
  | silent passes left silent =>
    have grown := silent.along (drawn_deskDrift hd)
    obtain ⟨spared, owned⟩ := passes.spares hd once keeps own clear (grown.trans within)
    refine ⟨spared.trans (silent.spares keeps owned), fun r s' same => ?_⟩
    cases same

end

end DeskSession

end Concierge
