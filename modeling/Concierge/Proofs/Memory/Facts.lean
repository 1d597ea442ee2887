import Concierge.Proofs.Encoding
import Concierge.Proofs.Storage

/-!
# Facts that are noted

A store of facts that works answers with the value that was last set for a key of a chat. What is set, whoever
sets it, stands in a log; what the store keeps at the end, if it still works then, is what the log says, and before
that what was kept at the beginning (`World.Notes`). A store in memory works as long as it is open.
-/

namespace Concierge

open Run Memory

variable {σ α : Type}

/-- A value is set for a key of a chat. -/
structure Memo where
  chat : ChatId
  key : String
  value : Value

namespace Memo

/-- The value last set for the key of the chat. -/
def last? (log : List Memo) (chat : ChatId) (key : String) : Option Value :=
  (log.filter fun m => m.chat = chat ∧ m.key = key).getLast?.map value

variable {chat : ChatId} {key : String}

theorem last?_append (log log' : List Memo) (chat : ChatId) (key : String) :
    last? (log ++ log') chat key = (last? log' chat key).or (last? log chat key) := by
  unfold last?
  rw [List.filter_append, List.getLast?_append]
  cases (log'.filter fun m => m.chat = chat ∧ m.key = key).getLast? <;> rfl

theorem last?_singleton (m : Memo) (chat : ChatId) (key : String) :
    last? [m] chat key = if m.chat = chat ∧ m.key = key then some m.value else none := by
  unfold last?
  by_cases here : m.chat = chat ∧ m.key = key <;> simp [here]

theorem last?_of_others {log : List Memo} (others : ∀ m ∈ log, ¬ (m.chat = chat ∧ m.key = key)) :
    last? log chat key = none := by
  have nothing : (log.filter fun m => m.chat = chat ∧ m.key = key) = [] :=
    List.filter_eq_nil_iff.mpr fun m hm => by simpa using others m hm
  unfold last?
  rw [nothing]
  rfl

def AllFit (fits : Value → Prop) (log : List Memo) : Prop := ∀ m ∈ log, fits m.value

theorem allFit_append {fits : Value → Prop} {log log' : List Memo} :
    AllFit fits (log ++ log') ↔ AllFit fits log ∧ AllFit fits log' := List.forall_mem_append

end Memo

/-! ## What a store keeps -/

namespace World

def fact? (out : Outside σ) (store : StoreId) (chat : ChatId) (key : String) (w : World σ) : Option Value :=
  (access out store chat (.fact? key) w).1.toOption.join

section
variable (out : Outside σ) (store : StoreId) (fits : Value → Prop) (calm works : World σ → Prop)

/-- From one world to a later one the facts of the log are set, in this order, and no others. This is asked of
values that fit into the store and of calm worlds, which stay calm, if the store works in the end; then it has
worked all the time. -/
def Notes (log : List Memo) (w w' : World σ) : Prop :=
  Memo.AllFit fits log → calm w → calm w' ∧ (works w' → works w ∧
    ∀ chat key, w'.fact? out store chat key = (Memo.last? log chat key).or (w.fact? out store chat key))

end

variable {out : Outside σ} {store : StoreId} {fits : Value → Prop} {calm works : World σ → Prop}
  {log log' : List Memo} {w w' w'' : World σ}

theorem Notes.refl (w : World σ) : Notes out store fits calm works [] w w :=
  fun _ quiet => ⟨quiet, fun ok => ⟨ok, fun _ _ => rfl⟩⟩

theorem Notes.trans (h : Notes out store fits calm works log w w') (h' : Notes out store fits calm works log' w' w'') :
    Notes out store fits calm works (log ++ log') w w'' := by
  intro fit quiet
  obtain ⟨fit, fit'⟩ := Memo.allFit_append.mp fit
  obtain ⟨quiet', noted⟩ := h fit quiet
  obtain ⟨quiet'', noted'⟩ := h' fit' quiet'
  refine ⟨quiet'', fun ok'' => ?_⟩
  obtain ⟨ok', later⟩ := noted' ok''
  obtain ⟨ok, before⟩ := noted ok'
  refine ⟨ok, fun chat key => ?_⟩
  rw [later, before, Memo.last?_append, Option.or_assoc]

end World

/-- These are the facts, under their keys in order. -/
structure Facts.Lists (fs : Facts) (facts : String → Option Value) : Prop where
  ordered : ascending (fs.map (·.1)) = true
  lookup : ∀ key, lookupName key fs = facts key

theorem Data.canonicalMembers_map {f : String × Value → String × Data} (values : ∀ m, (f m).2 = m.2.data) (fs : Facts) :
    canonicalMembers (fs.map f) = true := by
  induction fs with
  | nil => rfl
  | cons m fs ih =>
    rw [List.map_cons, canonicalMembers, ih, Bool.and_true, values]
    exact m.2.canonical

theorem Facts.canonical_data {fs : Facts} (ordered : ascending (fs.map (·.1)) = true) : fs.data.canonical = true := by
  unfold Facts.data Data.canonical
  rw [Data.canonicalMembers_map fun _ => rfl, Bool.and_true, List.map_map]
  exact ordered

theorem Facts.data_ofMembers {fs : Facts} (ordered : ascending (fs.map (·.1)) = true) :
    (Value.ofMembers fs).data = fs.data := by
  have whole := Value.ofData?_data ⟨fs.data, canonical_data ordered⟩
  change ((Value.ofData? fs.data).getD .null).data = fs.data
  rw [whole]
  rfl

def Memory.Operation.setsFact : Memory.Operation α → Bool
  | setFact .. => true
  | _ => false

/-- A store of facts that works in the worlds of `works` as long as nothing goes wrong around it, which is what
`calm` says: it answers, what is set for a key of a chat is what it answers for that key from then on, and nothing
else that is done changes what it answers. The values have to be such that the store can keep them. -/
structure FactStore (out : Outside σ) (store : StoreId) (fits : Value → Prop) (calm works : World σ → Prop) : Prop where
  fact : ∀ {w} chat key, calm w → works w → ∃ v, (World.access out store chat (.fact? key) w).1 = .ok v
  all : ∀ {w} chat, calm w → works w → ∃ fs, (World.access out store chat .allFacts w).1 = .ok fs ∧
    Facts.Lists fs fun key => w.fact? out store chat key
  set : ∀ {w} chat key v, calm w → works w → (World.access out store chat (.setFact key v) w).1 = .ok ()
  sets : ∀ chat key v w, World.Notes out store fits calm works [⟨chat, key, v⟩] w
    (World.access out store chat (.setFact key v) w).2
  others : ∀ {α : Type} {other : StoreId} (chat : ChatId) {op : Operation α}, other ≠ store ∨ op.setsFact = false →
    ∀ w, World.Notes out store fits calm works [] w (World.access out other chat op w).2
  clock : ∀ w c, World.Notes out store fits calm works [] w { w with clock := c }
  outside : ∀ w o, out.Moves w.outside o → World.Notes out store fits calm works [] w { w with outside := o }
  now : ∀ w, World.Notes out store fits calm works [] w { w with outside := (out.now w.outside).2 }
  registry : ∀ w r, World.Notes out store fits calm works [] w { w with registry := r }

namespace FactStore

variable {out : Outside σ} {store : StoreId} {fits : Value → Prop} {calm works : World σ → Prop}
  (hs : FactStore out store fits calm works)
include hs

theorem drift : Drift out (World.Notes out store fits calm works []) where
  trans h h' := h.trans h'
  clock := hs.clock
  outside := hs.outside

/-- An agent that is in no chat sets no fact. -/
theorem agentDrift : AgentDrift out (fun _ => False) (World.Notes out store fits calm works []) where
  toDrift := hs.drift
  facts _ _ _ _ nobody := nobody.elim
  addProvider w _ := hs.registry w _
  addAgent w _ _ _ := hs.registry w _
  setTask w _ _ _ := hs.registry w _

theorem access_fact {w : World σ} (chat : ChatId) (key : String) (quiet : calm w) (ok : works w) :
    (World.access out store chat (.fact? key) w).1 = .ok (w.fact? out store chat key) := by
  obtain ⟨v, answered⟩ := hs.fact chat key quiet ok
  unfold World.fact?
  rw [answered]
  rfl

end FactStore

/-! ## What an operation sets -/

def Memory.Operation.memos (chat : ChatId) : Operation α → List Memo
  | setFact key v => [⟨chat, key, v⟩]
  | _ => []

theorem Memory.Operation.memos_of_not_sets {op : Operation α} (h : op.setsFact = false) (chat : ChatId) :
    op.memos chat = [] := by
  cases op <;> first | rfl | cases h

theorem Memory.Operation.facts_apply {op : Operation α} (h : op.setsFact = false) (r : ChatRecord) :
    (op.apply r).2.facts = r.facts := by
  cases op <;> first | rfl | cases h

theorem Memory.Operation.lookup_apply (op : Operation α) (chat k : ChatId) (r : ChatRecord) (j : String) :
    lookupName j (if k = chat then (op.apply r).2.facts else r.facts) =
      (Memo.last? (op.memos chat) k j).or (lookupName j r.facts) := by
  cases sets : op.setsFact with
  | false =>
    rw [facts_apply sets, memos_of_not_sets sets, ite_self]
    rfl
  | true =>
    cases op with
    | setFact key v =>
      show lookupName j (if k = chat then insertSorted key v r.facts else r.facts) = _
      rw [memos, Memo.last?_singleton]
      by_cases here : k = chat
      · subst here
        rw [if_pos rfl, lookupName_insertSorted]
        by_cases same : j = key
        · simp [same]
        · simp [same, Ne.symm same]
      · rw [if_neg here, if_neg fun same => here same.1.symm]
        rfl
    | append | history | clear | fact? | allFacts | addSummary | latest? | summaries => cases sets

theorem Memory.Operation.ascending_apply (op : Operation α) {r : ChatRecord}
    (ordered : ascending (r.facts.map (·.1)) = true) : ascending ((op.apply r).2.facts.map (·.1)) = true := by
  cases sets : op.setsFact with
  | false =>
    rw [facts_apply sets]
    exact ordered
  | true =>
    cases op with
    | setFact key v => exact ascending_insertSorted key v r.facts ordered
    | append | history | clear | fact? | allFacts | addSummary | latest? | summaries => cases sets

/-! ## Stores in memory -/

namespace World

def FactsInMemory (store : StoreId) (w : World σ) : Prop :=
  ∃ s, w.stores[store.place]? = some (.memory s) ∧ s.closed = false ∧
    ∀ chat, ascending ((s.record chat).facts.map (·.1)) = true

variable {out : Outside σ} {store other : StoreId} {w w' : World σ} {s : InMemory} {chat : ChatId}

theorem fact?_memory (found : w.stores[store.place]? = some (.memory s)) (isOpen : s.closed = false) (chat : ChatId)
    (key : String) : w.fact? out store chat key = lookupName key (s.record chat).facts := by
  unfold fact?
  rw [access_memory found]
  simp [InMemory.perform, isOpen, Operation.apply, Except.toOption]

theorem notes_of_place (same : w'.stores[store.place]? = w.stores[store.place]?) :
    Notes out store (fun _ => True) (FactsInMemory store) (fun _ => True) [] w w' := by
  rintro - ⟨s, found, isOpen, ordered⟩
  have found' := same.trans found
  refine ⟨⟨s, found', isOpen, ordered⟩, fun _ => ⟨trivial, fun chat key => ?_⟩⟩
  rw [fact?_memory found isOpen, fact?_memory found' isOpen]
  rfl

theorem notes_access (chat : ChatId) (op : Operation α) (w : World σ) :
    Notes out store (fun _ => True) (FactsInMemory store) (fun _ => True) (op.memos chat) w
      (access out store chat op w).2 := by
  rintro - ⟨s, found, isOpen, ordered⟩
  have inside : store.place < w.stores.length := (List.getElem?_eq_some_iff.mp found).1
  have isOpen' : (s.perform chat op).2.closed = false := by rw [InMemory.closed_perform, isOpen]
  have found' : (access out store chat op w).2.stores[store.place]? = some (.memory (s.perform chat op).2) := by
    rw [access_memory found]
    exact List.getElem?_set_self inside
  refine ⟨⟨_, found', isOpen', fun k => ?_⟩, fun _ => ⟨trivial, fun k key => ?_⟩⟩
  · rw [InMemory.record_perform _ _ _ isOpen]
    split
    · exact op.ascending_apply (ordered chat)
    · exact ordered k
  · rw [fact?_memory found isOpen, fact?_memory found' isOpen', InMemory.record_perform _ _ _ isOpen,
      ← op.lookup_apply]
    by_cases here : k = chat <;> simp [here]

end World

/-- **A store in memory is a store of facts that works** as long as it is open. -/
theorem factStore_inMemory (out : Outside σ) (store : StoreId) :
    FactStore out store (fun _ => True) (World.FactsInMemory store) (fun _ => True) where
  fact chat key := by
    rintro ⟨s, found, isOpen, -⟩ -
    rw [World.access_memory found]
    exact ⟨_, by simp [InMemory.perform, isOpen]; rfl⟩
  all chat := by
    rintro ⟨s, found, isOpen, ordered⟩ -
    refine ⟨(s.record chat).facts, ?_, ordered chat, fun key => (World.fact?_memory found isOpen chat key).symm⟩
    rw [World.access_memory found]
    simp [InMemory.perform, isOpen, Operation.apply]
  set chat key v := by
    rintro ⟨s, found, isOpen, -⟩ -
    rw [World.access_memory found]
    simp [InMemory.perform, isOpen]
  sets chat key v w := World.notes_access chat (.setFact key v) w
  others {_ other} chat op apart w := by
    by_cases here : other = store
    · subst here
      rw [← Operation.memos_of_not_sets (apart.resolve_left fun elsewhere => elsewhere rfl) chat]
      exact World.notes_access chat op w
    · exact World.notes_of_place (World.access_elsewhere here chat op)
  clock _ _ := World.notes_of_place rfl
  outside _ _ _ := World.notes_of_place rfl
  now _ := World.notes_of_place rfl
  registry _ _ := World.notes_of_place rfl

end Concierge
