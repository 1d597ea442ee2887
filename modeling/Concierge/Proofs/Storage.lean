import Concierge.Proofs.Registry

/-!
# Stored transcripts

A conversation store that works changes what it keeps of a chat only when a message of that chat is
recorded. So a turn adds the messages that it leaves to the stored transcript of its own chat, and
nothing to any other (`Chat.turn_adds`). A store in memory works until it is closed.
-/

namespace Concierge

open Run Memory

variable {σ : Type}

def World.stored (out : Outside σ) (store : StoreId) (chat : ChatId) (w : World σ) : Option (List Message) :=
  (World.access out store chat .history w).1.toOption

section
variable (out : Outside σ) (store : StoreId) (calm works : World σ → Prop)

/-- From one world to a later one each transcript gains what `added` says. This is asked of calm worlds,
which stay calm, if the store works in the end; then it has worked all the time. -/
def World.Adds (added : ChatId → List Message) (w w' : World σ) : Prop :=
  calm w → calm w' ∧ (works w' →
    works w ∧ ∀ k, w'.stored out store k = (w.stored out store k).map (· ++ added k))

/-- A conversation store that works in the worlds of `works` as long as nothing goes wrong around it,
which is what `calm` says. Every transcript can be read, a message goes behind those of its chat, and
nothing else that agents do changes a transcript. -/
structure Working : Prop where
  reads : ∀ w k, works w → ∃ ms, w.stored out store k = some ms
  clock : ∀ w c, World.Adds out store calm works (fun _ => []) w { w with clock := c }
  outside : ∀ w o, out.Moves w.outside o →
    World.Adds out store calm works (fun _ => []) w { w with outside := o }
  registry : ∀ w r, World.Adds out store calm works (fun _ => []) w { w with registry := r }
  facts : ∀ {α : Type} (other : StoreId) (chat : ChatId) {op : Operation α}, op.onFacts = true →
    ∀ w, World.Adds out store calm works (fun _ => []) w (World.access out other chat op w).2
  record : ∀ (other : StoreId) (chat : ChatId) (m : Message) (w : World σ),
    World.Adds out store calm works (fun k => if other = store ∧ chat = k then [m] else []) w
      (World.access out other chat (.append m) w).2

end

def Chat.filedUnder (c : Chat) (store : StoreId) (k : ChatId) : Bool :=
  c.memory.conversation = some store ∧ c.id = some k

section
variable {out : Outside σ} {store : StoreId} {calm works : World σ → Prop} {added added' : ChatId → List Message}
  {w w' w'' : World σ}

theorem World.Adds.trans (h : World.Adds out store calm works added w w')
    (h' : World.Adds out store calm works added' w' w'') :
    World.Adds out store calm works (fun k => added k ++ added' k) w w'' := by
  intro quiet
  obtain ⟨quiet', kept⟩ := h quiet
  obtain ⟨quiet'', kept'⟩ := h' quiet'
  refine ⟨quiet'', fun ok => ?_⟩
  obtain ⟨ok', gained'⟩ := kept' ok
  obtain ⟨before, gained⟩ := kept ok'
  refine ⟨before, fun k => ?_⟩
  rw [gained' k, gained k, Option.map_map]
  congr 1
  funext ms
  simp

theorem World.Adds.congr (h : World.Adds out store calm works added w w') (same : ∀ k, added k = added' k) :
    World.Adds out store calm works added' w w' := by
  rw [← show added = added' from funext same]
  exact h

variable (hs : Working out store calm works)
include hs

theorem Working.drift : Drift out (World.Adds out store calm works fun _ => []) where
  trans h h' := h.trans h'
  clock := hs.clock
  outside := hs.outside

theorem Working.agentDrift : AgentDrift out (fun _ => True) (World.Adds out store calm works fun _ => []) where
  toDrift := hs.drift
  facts other _ _ onFacts _ := along_modifyGet (hs.facts other _ onFacts)
  addProvider w _ := hs.registry w _
  addAgent w _ _ _ := hs.registry w _
  setTask w _ _ _ := hs.registry w _

/-! ## What a turn adds -/

namespace Chat

variable {deadline : Option Nat} {c c' : Chat}

theorem record_adds {m : Message} (h : c.record out m deadline w = (some c', w')) :
    World.Adds out store calm works (fun k => if c.filedUnder store k then [m] else []) w w' := by
  have refl := hs.drift.refl w
  unfold record at h
  cases conversation : c.memory.conversation with
  | none =>
    simp only [conversation] at h
    cases h
    exact refl.congr fun k => by simp [filedUnder, conversation]
  | some other =>
    cases id : c.id with
    | none =>
      simp only [conversation, id] at h
      cases h
      exact refl.congr fun k => by simp [filedUnder, id]
    | some chat =>
      simp only [conversation, id] at h
      obtain ⟨_, w₁, kept, h⟩ := bind_eq_some.mp h
      cases kept
      cases h
      exact (hs.record other chat m w).congr fun k => by simp [filedUnder, conversation, id]

theorem recordAll_adds {ms : List Message} (h : c.recordAll out ms deadline w = (some c', w')) :
    World.Adds out store calm works (fun k => if c.filedUnder store k then ms else []) w w' := by
  induction ms generalizing c w with
  | nil =>
    cases h
    exact (hs.drift.refl _).congr fun k => by simp
  | cons m ms ih =>
    obtain ⟨c₁, w₁, first, rest⟩ := bind_eq_some.mp h
    have same (k : ChatId) : c₁.filedUnder store k = c.filedUnder store k := by
      obtain ⟨_, run⟩ := record_run out deadline w c m
      rw [first] at run
      cases run
      rfl
    refine ((record_adds hs first).trans (ih rest)).congr fun k => ?_
    by_cases filed : c.filedUnder store k <;> simp [same, filed]

theorem turn_adds {message : String} {t : Turn} (h : c.turn out message deadline w = (some (t, c'), w')) :
    World.Adds out store calm works
      (fun k => if c.filedUnder store k then messagesOf message t.outcome else []) w w' := by
  unfold turn at h
  obtain ⟨t', w₁, spoken, h⟩ := bind_eq_some.mp h
  obtain ⟨c₁, w₂, recorded, h⟩ := bind_eq_some.mp h
  cases h
  have kept := (Agent.along_turn hs.agentDrift c.agent c.contents [.text message] fun _ _ => trivial).of_run spoken
  exact kept.trans (recordAll_adds hs recorded)

end Chat

end

/-! ## Stores in memory -/

namespace Memory.InMemory

variable {α : Type} (s : InMemory) (chat : ChatId) (op : Operation α)

theorem closed_perform : (s.perform chat op).2.closed = s.closed := by
  unfold perform
  by_cases closed : s.closed
  · simp [closed]
  · by_cases writes : op.writes <;> simp [closed, writes]

theorem record_perform (isOpen : s.closed = false) (k : ChatId) :
    (s.perform chat op).2.record k = if k = chat then (op.apply (s.record chat)).2 else s.record k := by
  unfold perform
  by_cases writes : op.writes
  · simp only [isOpen, Bool.false_eq_true, if_false, writes, if_true, record]
    rw [Table.get?_put]
    by_cases same : k = chat <;> simp [same]
  · rw [Bool.not_eq_true] at writes
    simp only [isOpen, Bool.false_eq_true, if_false, writes, Operation.apply_of_not_writes writes]
    by_cases same : k = chat <;> simp [same]

end Memory.InMemory

theorem Memory.Operation.messages_apply {α : Type} {op : Operation α} (h : op.onFacts = true) (r : ChatRecord) :
    (op.apply r).2.messages = r.messages := by
  cases op <;> simp [onFacts] at h <;> rfl

theorem Run.bind_access {α β : Type} (out : Outside σ) (store : StoreId) (chat : ChatId) (op : Operation α)
    (f : Except MemoryError α → Run σ β) (deadline : Option Nat) (w : World σ) :
    (Run.access out store chat op >>= f) deadline w =
      f (World.access out store chat op w).1 deadline (World.access out store chat op w).2 := rfl

namespace World

def OpenInMemory (store : StoreId) (w : World σ) : Prop :=
  ∃ s, w.stores[store.place]? = some (.memory s) ∧ s.closed = false

instance (store : StoreId) (w : World σ) : Decidable (w.OpenInMemory store) :=
  match found : w.stores[store.place]? with
  | some (.memory s) => decidable_of_iff (s.closed = false) (by simp [OpenInMemory, found])
  | none | some (.file _) | some (.outside _) => isFalse (by simp [OpenInMemory, found])

variable {out : Outside σ} {store other : StoreId} {w w' : World σ} {s : InMemory}

theorem access_memory {α : Type} (found : w.stores[store.place]? = some (.memory s)) (chat : ChatId)
    (op : Operation α) : access out store chat op w = ((s.perform chat op).1,
      { w with stores := w.stores.set store.place (.memory (s.perform chat op).2) }) := by
  unfold access
  simp only [found]

theorem stored_memory (found : w.stores[store.place]? = some (.memory s)) (isOpen : s.closed = false)
    (k : ChatId) : w.stored out store k = some (s.record k).messages := by
  unfold stored
  rw [access_memory found]
  simp [InMemory.perform, isOpen, Operation.apply, Except.toOption]

theorem access_elsewhere {α : Type} (ne : other ≠ store) (chat : ChatId) (op : Operation α) :
    (access out other chat op w).2.stores[store.place]? = w.stores[store.place]? := by
  have places : other.place ≠ store.place := fun same => ne (by cases other; cases store; simp_all)
  unfold access
  split <;> simp [List.getElem?_set_ne places]

variable (out) in
theorem adds_of_place (same : w'.stores[store.place]? = w.stores[store.place]?) :
    Adds out store (fun _ => True) (OpenInMemory store) (fun _ => []) w w' := by
  refine fun _ => ⟨trivial, ?_⟩
  rintro ⟨s, found, isOpen⟩
  have found' := same.symm.trans found
  refine ⟨⟨s, found', isOpen⟩, fun k => ?_⟩
  simp [stored_memory found isOpen, stored_memory found' isOpen]

theorem open_of_access {α : Type} {chat : ChatId} {op : Operation α}
    (isOpen : OpenInMemory store (access out store chat op w).2) :
    ∃ s, w.stores[store.place]? = some (.memory s) ∧ s.closed = false ∧
      (access out store chat op w).2.stores[store.place]? = some (.memory (s.perform chat op).2) := by
  obtain ⟨s', found', open'⟩ := isOpen
  unfold access at found' ⊢
  cases found : w.stores[store.place]? with
  | none => simp [found] at found'
  | some held =>
    have inside : store.place < w.stores.length := (List.getElem?_eq_some_iff.mp found).1
    cases held with
    | memory s =>
      simp only [found, List.getElem?_set_self inside, Option.some.injEq, Store.memory.injEq] at found' ⊢
      refine ⟨s, rfl, ?_, rfl⟩
      rw [← found', InMemory.closed_perform] at open'
      exact open'
    | file f =>
      simp only [found, List.getElem?_set_self inside] at found'
      cases found'
    | outside key => simp [found] at found'

theorem stored_access {α : Type} {chat : ChatId} {op : Operation α}
    (isOpen : OpenInMemory store (access out store chat op w).2) :
    OpenInMemory store w ∧ ∃ s, w.stores[store.place]? = some (.memory s) ∧ ∀ k,
      w.stored out store k = some (s.record k).messages ∧
      (access out store chat op w).2.stored out store k =
        some (if k = chat then (op.apply (s.record chat)).2 else s.record k).messages := by
  obtain ⟨s, found, before, found'⟩ := open_of_access isOpen
  refine ⟨⟨s, found, before⟩, s, found, fun k => ⟨stored_memory found before k, ?_⟩⟩
  rw [stored_memory found' (by rw [InMemory.closed_perform, before]), InMemory.record_perform _ _ _ before]

end World

/-- **A store in memory works as long as it is open.** -/
theorem working_inMemory (out : Outside σ) (store : StoreId) :
    Working out store (fun _ => True) (World.OpenInMemory store) where
  reads w k := by
    rintro ⟨s, found, isOpen⟩
    exact ⟨_, World.stored_memory found isOpen k⟩
  clock w c := World.adds_of_place out rfl
  outside w o _ := World.adds_of_place out rfl
  registry w r := World.adds_of_place out rfl
  facts other chat op onFacts w := by
    by_cases here : other = store
    · subst here
      refine fun _ => ⟨trivial, fun isOpen => ?_⟩
      obtain ⟨before, s, -, kept⟩ := World.stored_access isOpen
      refine ⟨before, fun k => ?_⟩
      rw [(kept k).1, (kept k).2]
      by_cases same : k = chat <;> simp [same, Operation.messages_apply onFacts]
    · exact World.adds_of_place out (World.access_elsewhere here chat op)
  record other chat m w := by
    by_cases here : other = store
    · subst here
      refine fun _ => ⟨trivial, fun isOpen => ?_⟩
      obtain ⟨before, s, -, kept⟩ := World.stored_access isOpen
      refine ⟨before, fun k => ?_⟩
      rw [(kept k).1, (kept k).2]
      by_cases same : k = chat
      · simp [same, Operation.apply]
      · simp [same, Ne.symm same]
    · exact (World.adds_of_place out (World.access_elsewhere here chat _)).congr fun k => by simp [here]

end Concierge
