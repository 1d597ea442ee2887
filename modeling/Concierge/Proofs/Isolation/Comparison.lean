import Concierge.Proofs.Isolation.Agreement
import Concierge.Proofs.Isolation.Others

/-!
# Two worlds that go on alike

A `Comparison` sets two outside worlds side by side that behave the same up to the names of chats. Worlds go
with each other up to some names if their outsides do, their registries have the same configuration,
whatever they keep, and their stores agree on the chats that are named (`Comparison.Worlds`). Turns keep to
this bond, since no more of a world can be seen in a turn (`Comparison.staffed`).
-/

namespace Concierge

open Run Memory

variable {σ τ : Type}

structure Comparison (σ τ : Type) where
  out : Outside σ
  out' : Outside τ
  drawn : σ → List ChatId
  drawn' : τ → List ChatId
  /-- They go on alike from these states if chats go by these names. -/
  same : Naming → σ → τ → Prop
  /-- These models can be had at any time, and it makes no difference to ask for them. -/
  certain : String → Prop
  /-- How far the clocks are ahead, each of the other. -/
  early : Nat
  late : Nat

namespace Comparison

variable (C : Comparison σ τ)

/-- The outside worlds behave the same up to the names of chats, also of those that are drawn anew. -/
structure Impartial : Prop where
  draws : C.out.Draws C.drawn
  draws' : C.out'.Draws C.drawn'
  posted : ∀ {n s s'}, C.same n s s' → C.out.postedRoles s = C.out'.postedRoles s'
  createModel : ∀ model {n s s'}, C.same n s s' → (C.out.createModel model s).1 = (C.out'.createModel model s').1 ∧
    C.same n (C.out.createModel model s).2 (C.out'.createModel model s').2
  certain : ∀ {model n s s'}, C.certain model → C.same n s s' →
    (C.out.createModel model s).1 = .ok () ∧ C.same n (C.out.createModel model s).2 s' ∧
      (C.out'.createModel model s').1 = .ok () ∧ C.same n s (C.out'.createModel model s').2
  generate : ∀ {p p' : Provider} {r r' : Request} {n : Naming} {s s'}, p.Same p' → n.Texts.Requests r r' →
    C.same n s s' → (C.out.generate p r s).1 = (C.out'.generate p' r' s').1 ∧
      C.same n (C.out.generate p r s).2 (C.out'.generate p' r' s').2
  callTool : ∀ key args {c c' : ToolContext} {n : Naming} {s s'}, n.Contexts c c' → C.same n s s' →
    Timed.Alike n.Texts.Results (C.out.callTool key args c s).1 (C.out'.callTool key args c' s').1 ∧
      C.same n (C.out.callTool key args c s).2 (C.out'.callTool key args c' s').2
  send : ∀ (client : Gemini.Client) url {r r' : Request} {n : Naming} {s s'}, n.Texts.Requests r r' → C.same n s s' →
    (C.out.send (client.httpRequest url r) s).1 = (C.out'.send (client.httpRequest url r') s').1 ∧
      C.same n (C.out.send (client.httpRequest url r) s).2 (C.out'.send (client.httpRequest url r') s').2
  jitter : ∀ {n s s'}, C.same n s s' → (C.out.jitter s).1 = (C.out'.jitter s').1 ∧
    C.same n (C.out.jitter s).2 (C.out'.jitter s').2
  access : ∀ {α : Type} key {k k' : ChatId} (op : Operation α) {n : Naming} {s s'}, n k k' → C.same n s s' →
    n.Texts.Answers (C.out.access key k op s).1 (C.out'.access key k' op s').1 ∧
      C.same n (C.out.access key k op s).2 (C.out'.access key k' op s').2
  drawChatId : ∀ {n : Naming} {s s'}, C.same n s s' → (C.out.drawChatId s).1 ∉ C.drawn s →
    (C.out'.drawChatId s').1 ∉ C.drawn' s' →
      C.same (addPair n (C.out.drawChatId s).1 (C.out'.drawChatId s').1) (C.out.drawChatId s).2 (C.out'.drawChatId s').2

def Certain (model : String) : Backend → Prop
  | .outside => C.certain model
  | .gemini _ => Gemini.checkModel model = .ok ()

/-- Registries of one configuration. A model that only one of them keeps a provider of can be had at any
time. -/
structure Registries (r r' : Registry) : Prop where
  steady : r.Steady r'
  providers : ∀ model, C.Certain model r.backend ∨
    (r.providers.get? model).isSome = (r'.providers.get? model).isSome

end Comparison

inductive Store.Alike (n : Naming) (f f' : Folder) : Store → Store → Prop
  | memory {s s'} (h : s.Alike n s') : Alike n f f' (.memory s) (.memory s')
  | file {s s'} (h : FileStore.Alike f f' s s') : Alike n f f' (.file s) (.file s')
  | outside (key : Nat) : Alike n f f' (.outside key) (.outside key)

namespace Comparison

/-- Worlds that agree on all that goes by these names. -/
structure Agree (C : Comparison σ τ) (n : Names) (w : World σ) (w' : World τ) : Prop where
  chats : Relator.BiUnique n.chats
  places : Relator.BiUnique n.stores
  drawn : ∀ {k k'}, n.chats k k' → k ∈ C.drawn w.outside ∧ k' ∈ C.drawn' w'.outside
  outside : C.same n.chats w.outside w'.outside
  abreast : w.clock + C.late = w'.clock + C.early
  registries : C.Registries w.registry w'.registry
  toolboxes : ∀ role, (w.registry.toolsFor role).Renamed n.stores (w'.registry.toolsFor role)
  folders : w.folder.Alike (FileStore.Files n.chats) w'.folder
  stores : ∀ {p p'}, n.stores p p' → ∃ s s', w.stores[p.place]? = some s ∧ w'.stores[p'.place]? = some s' ∧
    s.Alike n.chats w.folder w'.folder s'

structure Worlds (C : Comparison σ τ) (n : Names) (w : World σ) (w' : World τ) : Prop extends C.Agree n w w' where
  sound : w.registry.Sound
  sound' : w'.registry.Sound
  tidy : w.Tidy C.drawn
  tidy' : w'.Tidy C.drawn'

end Comparison

def Registry.Running (r : Registry) (roles : List String) (l : List Nat) : Prop :=
  List.Forall₂ (fun role serial => ∃ e, r.agents.get? role = some e ∧ e.serial = serial) roles l

namespace Comparison

def bond (C : Comparison σ τ) (n : Names) : Bond σ τ where
  worlds := C.Worlds n
  early := C.early
  late := C.late
  texts := n.chats.Texts
  providers := Provider.Same
  contexts := n.chats.Contexts
  places p p' := n.stores p.1 p'.1 ∧ n.chats p.2 p'.2
  busy l l' r r' := ∃ roles, r.Running roles l ∧ r'.Running roles l'

variable {C : Comparison σ τ} {n : Names} {w : World σ} {w' : World τ}

/-! ## Models, tools and stores -/

theorem Worlds.ask (h : C.Worlds n w w') {o : σ} {o' : τ} (same : C.same n.chats o o')
    (drawn : C.drawn o = C.drawn w.outside) (drawn' : C.drawn' o' = C.drawn' w'.outside) :
    C.Worlds n { w with outside := o } { w' with outside := o' } :=
  { h with
    outside := same
    tidy := h.tidy.congr rfl rfl drawn
    tidy' := h.tidy'.congr rfl rfl drawn'
    drawn := by
      intro k k' named
      have both := h.drawn named
      rw [drawn, drawn']
      exact both }

theorem tidy_access {out : Outside σ} {drawn : σ → List ChatId} (hd : out.Draws drawn) {α : Type} {w : World σ}
    (tidy : w.Tidy drawn) (p : StoreId) {k : ChatId} (op : Operation α) (known : k ∈ drawn w.outside) :
    (World.access out p k op w).2.Tidy drawn := by
  have same := World.drawn_access hd p k op w
  have other : ¬ (fun j => j ≠ k) k := fun different => different rfl
  refine tidy.later (World.spares_access out.keeps_nothing p op other w) ?_ fun j undrawn => ?_
  · simp [same]
  · rintro rfl
    rw [same] at undrawn
    exact undrawn known

theorem Worlds.stores_set (h : C.Worlds n w w') {p p' : StoreId} (hp : n.stores p p') {f f' : Folder} {x x' : Store}
    (changed : x.Alike n.chats f f' x')
    (others : ∀ {s s' : Store}, s.Alike n.chats w.folder w'.folder s' → s.Alike n.chats f f' s') {q q' : StoreId}
    (hq : n.stores q q') :
    ∃ s s', (w.stores.set p.place x)[q.place]? = some s ∧ (w'.stores.set p'.place x')[q'.place]? = some s' ∧
      s.Alike n.chats f f' s' := by
  obtain ⟨s, s', has, has', alike⟩ := h.stores hq
  have inside := (List.getElem?_eq_some_iff.mp has).1
  have inside' := (List.getElem?_eq_some_iff.mp has').1
  have names := eq_iff_of_biUnique h.places hp hq
  by_cases same : p = q
  · have same' := names.mp same
    subst same same'
    exact ⟨x, x', List.getElem?_set_self inside, List.getElem?_set_self inside', changed⟩
  · have other : p.place ≠ q.place := fun place => same (congrArg StoreId.mk place)
    have other' : p'.place ≠ q'.place := fun place => same (names.mpr (congrArg StoreId.mk place))
    refine ⟨s, s', ?_, ?_, others alike⟩
    · rw [List.getElem?_set_ne other]
      exact has
    · rw [List.getElem?_set_ne other']
      exact has'

theorem twin_access (hC : C.Impartial) {α : Type} {p p' : StoreId} {k k' : ChatId} (hp : n.stores p p')
    (hk : n.chats k k') (op : Operation α) :
    (C.bond n).Twin n.chats.Texts.Answers (Run.access C.out p k op) (Run.access C.out' p' k' op) := by
  refine twin_modifyGet fun w w' h => ?_
  obtain ⟨known, known'⟩ := h.drawn hk
  have tidy := tidy_access hC.draws h.tidy p op known
  have tidy' := tidy_access hC.draws' h.tidy' p' op known'
  obtain ⟨s, s', has, has', alike⟩ := h.stores hp
  unfold World.access at tidy tidy' ⊢
  simp only [has, has'] at tidy tidy' ⊢
  cases alike with
  | @memory s s' alike =>
    obtain ⟨same, after⟩ := InMemory.alike_perform h.chats alike hk op
    refine ⟨?_, { h with stores := ?_, tidy := tidy, tidy' := tidy' }⟩
    · dsimp only
      rw [same]
      generalize (s'.perform k' op).1 = answer
      cases answer with
      | ok a => exact .ok a
      | error e => exact .error (.same _)
    · intro q q' hq
      exact h.stores_set hp (.memory after) id hq
  | @file s s' alike =>
    obtain ⟨answers, folders, after, present⟩ := FileStore.alike_perform h.chats hk h.folders alike op
    have first := FileStore.after_perform s w.folder k op
    have first' := FileStore.after_perform s' w'.folder k' op
    refine ⟨answers, { h with folders := folders, stores := ?_, tidy := tidy, tidy' := tidy' }⟩
    intro q q' hq
    refine h.stores_set hp (.file after) (fun {x x'} others => ?_) hq
    cases others with
    | memory others => exact .memory others
    | file others => exact .file (others.later first first' present)
    | outside key => exact .outside key
  | outside key =>
    obtain ⟨answers, after⟩ := hC.access key op hk h.outside
    exact ⟨answers, h.ask after (hC.draws.access key k op _) (hC.draws'.access key k' op _)⟩

theorem fair (hC : C.Impartial) (n : Names) : (C.bond n).Fair C.out C.out' where
  abreast h := h.abreast
  clock h abreast := { h with abreast := abreast, tidy := h.tidy.congr rfl rfl rfl, tidy' := h.tidy'.congr rfl rfl rfl }
  same := .same
  behind _ _ _ h := .append (.same _) h
  alone _ := ⟨rfl, .none⟩
  steady h := h.registries.steady
  backend h := h
  posted h := hC.posted h.outside
  generate hp hr := twin_modifyGet fun _ _ h =>
    have ⟨same, after⟩ := hC.generate hp hr h.outside
    ⟨same, h.ask after (hC.draws.generate _ _ _) (hC.draws'.generate _ _ _)⟩
  callTool key args _ _ hc := twin_modifyGet fun _ _ h =>
    have ⟨same, after⟩ := hC.callTool key args hc h.outside
    ⟨same, h.ask after (hC.draws.callTool _ _ _ _) (hC.draws'.callTool _ _ _ _)⟩
  send client url _ _ hr := twin_modifyGet fun _ _ h =>
    have ⟨same, after⟩ := hC.send client url hr h.outside
    ⟨same, h.ask after (hC.draws.send _ _) (hC.draws'.send _ _)⟩
  jitter := twin_modifyGet fun _ _ h =>
    have ⟨same, after⟩ := hC.jitter h.outside
    ⟨same, h.ask after (hC.draws.jitter _) (hC.draws'.jitter _)⟩
  facts _ same := twin_access hC same.1 same.2 _

end Comparison

end Concierge
