import Mathlib.Logic.Relator
import Concierge.Proofs.Isolation.Service
import Concierge.Proofs.Twin

/-!
# The same under other names

Two sessions that have gone the same way may have drawn other chat ids and opened stores in other places.
`Names` says which ids and stores go by which on the other side, and `Renamed` is what is the same up to
these names. What is renamed alike stays so when more names are known (`mono`).
-/

namespace Concierge

/-- Which chat ids go by which others. -/
abbrev Naming := ChatId → ChatId → Prop

theorem rel_mono {α β : Type} {R R' : α → β → Prop} {x : Option α} {y : Option β} (h : Option.Rel R x y)
    (more : ∀ a b, R a b → R' a b) : Option.Rel R' x y := by
  cases h with
  | none => exact .none
  | some h => exact .some (more _ _ h)

theorem rel_cases {α β : Type} {R : α → β → Prop} {x : Option α} {y : Option β} (h : Option.Rel R x y) :
    x = none ∧ y = none ∨ ∃ a b, x = some a ∧ y = some b ∧ R a b := by
  cases h with
  | none => exact Or.inl ⟨rfl, rfl⟩
  | some h => exact Or.inr ⟨_, _, rfl, rfl, h⟩

theorem isSome_eq_of_rel {α β : Type} {R : α → β → Prop} {x : Option α} {y : Option β} (h : Option.Rel R x y) :
    x.isSome = y.isSome := by
  cases h <;> rfl

namespace Naming

variable (n : Naming)

inductive Texts : Likeness
  | same (s : String) : Texts s s
  | name {k k'} (h : n k k') : Texts k.text k'.text
  | append {s s' t t'} (h : Texts s s') (h' : Texts t t') : Texts (s ++ t) (s' ++ t')

def Contexts (c c' : ToolContext) : Prop :=
  c.role = c'.role ∧ Option.Rel (fun t t' => ∃ k k', n k k' ∧ t = ChatId.text k ∧ t' = ChatId.text k') c.chat c'.chat

variable {n}

theorem Contexts.chat (h : n.Contexts c c') : Option.Rel n (Tool.chat? c) (Tool.chat? c') := by
  obtain ⟨-, chats⟩ := h
  unfold Tool.chat?
  generalize c.chat = t at chats
  generalize c'.chat = t' at chats
  cases chats with
  | none => exact .none
  | some named =>
    obtain ⟨k, k', same, rfl, rfl⟩ := named
    simp only [Option.bind_some, ChatId.ofText?_text]
    exact .some same

theorem Texts.mono {n' : Naming} (more : ∀ {k k'}, n k k' → n' k k') {s s' : String} (h : n.Texts s s') :
    n'.Texts s s' := by
  induction h with
  | same s => exact .same s
  | name h => exact .name (more h)
  | append _ _ ih ih' => exact .append ih ih'

end Naming

def addPair {α β : Type} (R : α → β → Prop) (a : α) (b : β) : α → β → Prop := fun x y => R x y ∨ x = a ∧ y = b

theorem biUnique_addPair {α β : Type} {R : α → β → Prop} (one : Relator.BiUnique R) {a : α} {b : β}
    (new : ∀ y, ¬ R a y) (new' : ∀ x, ¬ R x b) : Relator.BiUnique (addPair R a b) := by
  constructor
  · intro x y z hx hy
    rcases hx with hx | ⟨rfl, rfl⟩ <;> rcases hy with hy | ⟨rfl, same⟩
    · exact one.1 hx hy
    · exact absurd (same ▸ hx) (new' x)
    · exact absurd hy (new' y)
    · rfl
  · intro x y z hy hz
    rcases hy with hy | ⟨rfl, rfl⟩ <;> rcases hz with hz | ⟨same, rfl⟩
    · exact one.2 hy hz
    · exact absurd (same ▸ hy) (new y)
    · exact absurd hz (new z)
    · rfl

theorem eq_iff_of_biUnique {α β : Type} {R : α → β → Prop} (one : Relator.BiUnique R) {a b : α} {a' b' : β}
    (h : R a a') (h' : R b b') : a = b ↔ a' = b' := by
  constructor
  · rintro rfl
    exact one.2 h h'
  · rintro rfl
    exact one.1 h h'

structure Names where
  chats : Naming
  stores : StoreId → StoreId → Prop

/-- All these names are among those. -/
structure Names.Within (n n' : Names) : Prop where
  chats : ∀ {k k'}, n.chats k k' → n'.chats k k'
  stores : ∀ {p p'}, n.stores p p' → n'.stores p p'

namespace Names.Within

variable {n n' n'' : Names}

theorem refl (n : Names) : n.Within n := ⟨id, id⟩

theorem trans (h : n.Within n') (h' : n'.Within n'') : n.Within n'' := ⟨h'.chats ∘ h.chats, h'.stores ∘ h.stores⟩

end Names.Within

/-! ## Tools and agents -/

section
variable {stores : StoreId → StoreId → Prop}

inductive Tool.Renamed (stores : StoreId → StoreId → Prop) : Tool → Tool → Prop
  | plain {t} (h : t.onFacts = false) : Renamed stores t t
  | remember {p p'} (h : stores p p') : Renamed stores (.remember p) (.remember p')
  | lookUp {p p'} (h : stores p p') : Renamed stores (.lookUp p) (.lookUp p')

theorem Tool.Renamed.name_eq {t t' : Tool} (h : Renamed stores t t') : t.name = t'.name := by
  cases h <;> rfl

theorem Tool.Renamed.definition_eq {t t' : Tool} (h : Renamed stores t t') (roles : Directory → List String) :
    t.definition roles = t'.definition roles := by
  cases h <;> rfl

theorem Tool.Renamed.mono {stores' : StoreId → StoreId → Prop} (more : ∀ {p p'}, stores p p' → stores' p p')
    {t t' : Tool} (h : Renamed stores t t') : Renamed stores' t t' := by
  cases h with
  | plain h => exact .plain h
  | remember h => exact .remember (more h)
  | lookUp h => exact .lookUp (more h)

structure Toolbox.Renamed (stores : StoreId → StoreId → Prop) (b b' : Toolbox) : Prop where
  tools : List.Forall₂ (Tool.Renamed stores) b.tools b'.tools
  index : b.index = b'.index

namespace Toolbox.Renamed

variable {b b' : Toolbox}

theorem mono {stores' : StoreId → StoreId → Prop} (h : b.Renamed stores b')
    (more : ∀ {p p'}, stores p p' → stores' p p') : b.Renamed stores' b' :=
  ⟨h.tools.imp fun _ _ same => same.mono more, h.index⟩

theorem register (h : b.Renamed stores b') {t t' : Tool} (same : t.Renamed stores t') :
    (b.register t).Renamed stores (b'.register t') := by
  unfold Toolbox.register
  rw [← same.name_eq, ← h.index]
  cases b.index.get? t.name with
  | none =>
    refine ⟨List.rel_append h.tools (.cons same .nil), ?_⟩
    rw [h.tools.length_eq]
  | some place =>
    refine ⟨?_, rfl⟩
    have tools := h.tools
    dsimp only
    generalize b.tools = ts at tools
    generalize b'.tools = ts' at tools
    induction tools generalizing place with
    | nil => exact .nil
    | cons first rest ih =>
      cases place with
      | zero => exact .cons same rest
      | succ place => exact .cons first (ih place)

theorem get? (h : b.Renamed stores b') (name : String) :
    Option.Rel (Tool.Renamed stores) (b.get? name) (b'.get? name) := by
  unfold Toolbox.get?
  rw [← h.index]
  cases b.index.get? name with
  | none => exact .none
  | some place =>
    dsimp only [Option.bind_some]
    have tools := h.tools
    generalize b.tools = ts at tools
    generalize b'.tools = ts' at tools
    induction tools generalizing place with
    | nil => exact .none
    | cons first rest ih =>
      cases place with
      | zero => exact .some first
      | succ place => exact ih place

theorem definitions_eq (h : b.Renamed stores b') (roles : Directory → List String) :
    b.definitions roles = b'.definitions roles := by
  unfold Toolbox.definitions
  have tools := h.tools
  generalize b.tools = ts at tools
  generalize b'.tools = ts' at tools
  induction tools with
  | nil => rfl
  | cons first _ ih => rw [List.map_cons, List.map_cons, first.definition_eq, ih]

theorem isEmpty_eq (h : b.Renamed stores b') : b.isEmpty = b'.isEmpty := by
  unfold Toolbox.isEmpty
  have tools := h.tools
  generalize b.tools = ts at tools
  generalize b'.tools = ts' at tools
  cases tools <;> rfl

end Toolbox.Renamed

def Provider.Same (p p' : Provider) : Prop := p.backend = p'.backend ∧ p.model = p'.model

structure Agent.Renamed (stores : StoreId → StoreId → Prop) (a a' : Agent) : Prop where
  role : a.role = a'.role
  objective : a.objective = a'.objective
  context : a.context = a'.context
  task : a.task = a'.task
  provider : a.provider.Same a'.provider
  tools : a.tools.Renamed stores a'.tools
  search : a.search = a'.search
  limits : a.limits = a'.limits
  thinking : a.thinking = a'.thinking

namespace Agent.Renamed

variable {a a' : Agent}

theorem mono {stores' : StoreId → StoreId → Prop} (h : a.Renamed stores a')
    (more : ∀ {p p'}, stores p p' → stores' p p') : a.Renamed stores' a' :=
  { h with tools := h.tools.mono more }

theorem instructions_eq (h : a.Renamed stores a') : a.instructions = a'.instructions := by
  unfold instructions
  rw [h.context, h.role, h.objective]

theorem offer_eq (h : a.Renamed stores a') (roles : Directory → List String) : a.offer roles = a'.offer roles := by
  unfold offer
  rw [h.tools.isEmpty_eq, h.tools.definitions_eq, h.search]

/-- It is the same agent to callers whose chats go by each other's names. -/
theorem alike {n : Names} (h : a.Renamed n.stores a') {c c' : ToolContext} (callers : n.chats.Contexts c c') :
    a.Alike Provider.Same
      (Tool.Alike (fun p p' => n.stores p.1 p'.1 ∧ n.chats p.2 p'.2) c c') a' where
  provider := h.provider
  limits := h.limits
  thinking := h.thinking
  instructions := h.instructions_eq
  offer := h.offer_eq
  tools name := by
    have tools := h.tools.get? name
    have chats := callers.chat
    generalize a.tools.get? name = t at tools
    generalize a'.tools.get? name = t' at tools
    have both {p p' : StoreId} (same : n.stores p p') :
        Option.Rel (fun k k' => n.stores p p' ∧ n.chats k k') (Tool.chat? c) (Tool.chat? c') := by
      generalize Tool.chat? c = k at chats
      generalize Tool.chat? c' = k' at chats
      cases chats with
      | none => exact .none
      | some known => exact .some ⟨same, known⟩
    cases tools with
    | none => exact .none
    | some renamed =>
      refine .some ?_
      cases renamed with
      | plain h => exact .plain h
      | remember h => exact .remember (both h)
      | lookUp h => exact .lookUp (both h)

end Agent.Renamed

structure Adapters.Renamed (stores : StoreId → StoreId → Prop) (m m' : Adapters) : Prop where
  conversation : Option.Rel stores m.conversation m'.conversation
  facts : Option.Rel stores m.facts m'.facts
  summaries : Option.Rel stores m.summaries m'.summaries

theorem Adapters.Renamed.mono {stores' : StoreId → StoreId → Prop} {m m' : Adapters} (h : m.Renamed stores m')
    (more : ∀ {p p'}, stores p p' → stores' p p') : m.Renamed stores' m' where
  conversation := rel_mono h.conversation fun _ _ => more
  facts := rel_mono h.facts fun _ _ => more
  summaries := rel_mono h.summaries fun _ _ => more

theorem Adapters.Renamed.isPersistent_eq {m m' : Adapters} (h : m.Renamed stores m') :
    m.isPersistent = m'.isPersistent := by
  unfold isPersistent
  rw [isSome_eq_of_rel h.conversation, isSome_eq_of_rel h.facts, isSome_eq_of_rel h.summaries]

end

/-! ## Chats and sessions -/

structure Chat.Renamed (n : Names) (c c' : Chat) : Prop where
  agent : c.agent.Renamed n.stores c'.agent
  history : c.history = c'.history
  memory : c.memory.Renamed n.stores c'.memory
  id : Option.Rel n.chats c.id c'.id

namespace Chat.Renamed

variable {n n' : Names} {c c' : Chat}

theorem mono (h : c.Renamed n c') (more : n.Within n') : c.Renamed n' c' where
  agent := h.agent.mono more.stores
  history := h.history
  memory := h.memory.mono more.stores
  id := rel_mono h.id fun _ _ => more.chats

theorem register (h : c.Renamed n c') {t t' : Tool} (same : t.Renamed n.stores t') :
    (c.register t).Renamed n (c'.register t') :=
  { h with agent := { h.agent with tools := h.agent.tools.register same } }

theorem withDelegation (h : c.Renamed n c') (roles : List String) :
    (c.withDelegation roles).Renamed n (c'.withDelegation roles) := by
  unfold Chat.withDelegation
  split
  · exact h
  · exact h.register (.plain rfl)

theorem withMemoryTools (h : c.Renamed n c') : c.withMemoryTools.Renamed n c'.withMemoryTools := by
  have facts := h.memory.facts
  unfold Chat.withMemoryTools
  generalize c.memory.facts = p at facts
  generalize c'.memory.facts = p' at facts
  cases facts with
  | none => exact h
  | some same => exact (h.register (.remember same)).register (.lookUp same)

theorem addContext (h : c.Renamed n c') (context : String) :
    (DeskSession.addContext context c).Renamed n (DeskSession.addContext context c') := by
  refine { h with agent := { h.agent with context := ?_ } }
  dsimp only [DeskSession.addContext, Agent.appendContext]
  rw [h.agent.context]

theorem contexts (h : c.Renamed n c') : n.chats.Contexts c.toolContext c'.toolContext := by
  refine ⟨h.agent.role, ?_⟩
  have id := h.id
  unfold Chat.toolContext
  generalize c.id = k at id
  generalize c'.id = k' at id
  cases id with
  | none => exact .none
  | some same => exact .some ⟨_, _, same, rfl, rfl⟩

end Chat.Renamed

def Specialists.Renamed (n : Names) (xs ys : List (String × Chat)) : Prop :=
  List.Forall₂ (fun x y => x.1 = y.1 ∧ x.2.Renamed n y.2) xs ys

namespace Specialists.Renamed

variable {n n' : Names} {xs ys : List (String × Chat)}

theorem mono (h : Specialists.Renamed n xs ys) (more : n.Within n') : Specialists.Renamed n' xs ys :=
  h.imp fun _ _ same => ⟨same.1, same.2.mono more⟩

theorem lookupName (h : Specialists.Renamed n xs ys) (role : String) :
    Option.Rel (Chat.Renamed n) (Concierge.lookupName role xs) (Concierge.lookupName role ys) := by
  induction h with
  | nil => exact .none
  | cons first _ ih =>
    unfold Concierge.lookupName
    rw [first.1]
    split
    · exact .some first.2
    · exact ih

theorem insertSorted (h : Specialists.Renamed n xs ys) (role : String) {c c' : Chat} (same : c.Renamed n c') :
    Specialists.Renamed n (Concierge.insertSorted role c xs) (Concierge.insertSorted role c' ys) := by
  induction h with
  | nil => exact .cons ⟨rfl, same⟩ .nil
  | cons first rest ih =>
    unfold Concierge.insertSorted
    rw [first.1]
    split
    · exact .cons ⟨rfl, same⟩ (.cons first rest)
    · split
      · exact .cons ⟨rfl, same⟩ rest
      · exact .cons first ih

end Specialists.Renamed

structure DeskSession.Renamed (n : Names) (s s' : DeskSession) : Prop where
  coordinator : s.coordinator.Renamed n s'.coordinator
  speaker : s.speaker = s'.speaker
  specialists : Specialists.Renamed n s.specialists s'.specialists
  pending : s.pending = s'.pending
  memory : s.memory.Renamed n.stores s'.memory
  generation : s.generation = s'.generation

theorem DeskSession.Renamed.mono {n n' : Names} {s s' : DeskSession} (h : s.Renamed n s') (more : n.Within n') :
    s.Renamed n' s' where
  coordinator := h.coordinator.mono more
  speaker := h.speaker
  specialists := h.specialists.mono more
  pending := h.pending
  memory := h.memory.mono more.stores
  generation := h.generation

end Concierge
