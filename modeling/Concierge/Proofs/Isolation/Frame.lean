import Concierge.Proofs.Registry
import Concierge.Proofs.Storage

/-!
# Chats that are spared

Stores keep the record of each chat apart from all others. What an agent does in its own chats therefore
spares every other chat: its records stay as they are, and no store is closed over it.
-/

namespace Concierge

open Run Memory

variable {σ β : Type} {α : Type}

/-! ## Records in a store -/

namespace Memory

theorem InMemory.get?_perform (s : InMemory) (op : Operation α) {chat k : ChatId} (other : k ≠ chat) :
    (s.perform chat op).2.records.get? k = s.records.get? k := by
  unfold perform
  by_cases closed : s.closed
  · simp [closed]
  · by_cases writes : op.writes
    · simp [closed, writes, Table.get?_put, other]
    · simp [closed, writes]

namespace Folder

variable (f : Folder) {name n : String}

theorem nodes_next : f.next.2.nodes = f.nodes := by
  unfold next
  split <;> rfl

theorem nodes_create : f.create.2.nodes = f.nodes := by
  have same := f.nodes_next
  unfold create
  split <;> rename_i g h <;> rw [h] at same
  · exact same
  · split <;> exact same

theorem nodes_read (name : String) : (f.read name).2.nodes = f.nodes := by
  have same := f.nodes_next
  unfold read
  split <;> rename_i g h <;> rw [h] at same
  · exact same
  · split
    · exact same
    · split <;> exact same

theorem nodes_write (text : String) (other : n ≠ name) : (f.write name text).2.nodes.get? n = f.nodes.get? n := by
  have same := f.nodes_next
  unfold write
  split <;> rename_i g h <;> rw [h] at same
  · rw [Table.get?_erase, if_neg other, same]
  · rw [Table.get?_put, if_neg other, same]
  · split
    · exact congrArg _ same
    · rw [Table.get?_put, if_neg other, same]

theorem nodes_rename {old new : String} (notOld : n ≠ old) (notNew : n ≠ new) :
    (f.rename old new).2.nodes.get? n = f.nodes.get? n := by
  have same := f.nodes_next
  unfold rename
  split <;> rename_i g h <;> rw [h] at same
  · exact congrArg _ same
  · split
    · exact congrArg _ same
    · split
      · exact congrArg _ same
      · rw [Table.get?_put, if_neg notNew, Table.get?_erase, if_neg notOld, same]

end Folder

namespace FileStore

variable (s : FileStore) (f : Folder) {chat : ChatId} {n : String}

theorem nodes_ensureReady : (s.ensureReady f).2.2.nodes = f.nodes := by
  have same := f.nodes_create
  unfold ensureReady
  split
  · rfl
  · rfl
  · split <;> rename_i h <;> rw [h] at same <;> exact same

theorem nodes_load (chat : ChatId) : (load chat f).2.nodes = f.nodes := by
  have same := f.nodes_read (recordName chat)
  unfold load
  split
  · rename_i h
    rw [h] at same
    split <;> exact same
  · rename_i h
    rw [h] at same
    exact same
  · rename_i h
    rw [h] at same
    exact same

theorem closed_ensureReady : (s.ensureReady f).2.1 = .closed ↔ s = .closed := by
  unfold ensureReady
  split
  · simp
  · simp
  · split <;> simp

theorem closed_perform (op : Operation α) : (s.perform f chat op).2.1 = .closed ↔ s = .closed := by
  have readied := s.closed_ensureReady f
  unfold perform
  split
  · rename_i h
    rw [h] at readied
    exact readied
  · rename_i s₁ f₁ h
    rw [h] at readied
    split
    · exact readied
    · dsimp only
      split
      · split <;> exact readied
      · exact readied

variable (notRecord : n ≠ recordName chat) (notDraft : n ≠ draftName chat)
include notRecord notDraft

theorem nodes_save (r : ChatRecord) : (save chat r f).2.nodes.get? n = f.nodes.get? n := by
  have written := f.nodes_write r.write notDraft
  unfold save
  split
  · rename_i h
    rw [h] at written
    exact written
  · rename_i g h
    rw [h] at written
    have renamed := g.nodes_rename notDraft notRecord
    split
    · rename_i h
      rw [h] at renamed
      exact renamed.trans written
    · rename_i h
      rw [h] at renamed
      exact renamed.trans written

theorem nodes_perform (op : Operation α) : (s.perform f chat op).2.2.nodes.get? n = f.nodes.get? n := by
  have readied := congrArg (·.get? n) (s.nodes_ensureReady f)
  unfold perform
  split
  · rename_i h
    rw [h] at readied
    exact readied
  · rename_i s₁ f₁ h
    rw [h] at readied
    have loaded := congrArg (·.get? n) (nodes_load f₁ chat)
    split
    · rename_i h
      rw [h] at loaded
      exact loaded.trans readied
    · rename_i r f₂ h
      rw [h] at loaded
      have saved := nodes_save f₂ notRecord notDraft (op.apply r).2
      dsimp only
      split
      · split
        · rename_i h
          rw [h] at saved
          exact saved.trans (loaded.trans readied)
        · rename_i h
          rw [h] at saved
          exact saved.trans (loaded.trans readied)
      · exact loaded.trans readied

end FileStore

end Memory

/-! ## What a world keeps under a chat id -/

/-- What can be seen of a store from one chat, but for the files and what is kept outside. -/
inductive Glimpse where
  | memory (closed : Bool) (record : Option ChatRecord)
  | file (closed : Bool)
  | outside (key : Nat)

def Store.glimpse (k : ChatId) : Store → Glimpse
  | .memory s => .memory s.closed (s.records.get? k)
  | .file s => .file (decide (s = .closed))
  | .outside key => .outside key

def Store.kind : Store → StoreKind
  | .memory _ => .memory
  | .file _ => .file
  | .outside key => .outside key

inductive Kept (β : Type) where
  | nothing
  | memory (closed : Bool) (record : Option ChatRecord)
  | file (closed : Bool) (record : Option Node)
  | outside (record : β)

/-- What the stores outside have of a chat changes only with operations on that chat. -/
structure Outside.Keeps (out : Outside σ) (view : Nat → ChatId → σ → β) : Prop where
  moves : ∀ {s o}, out.Moves s o → ∀ key k, view key k o = view key k s
  access : ∀ {α : Type} key chat (op : Operation α) s key' k, k ≠ chat →
    view key' k (out.access key chat op s).2 = view key' k s

namespace World

variable (view : Nat → ChatId → σ → β)

def kept (store : StoreId) (k : ChatId) (w : World σ) : Kept β :=
  match w.stores[store.place]? with
  | none => .nothing
  | some (.memory s) => .memory s.closed (s.records.get? k)
  | some (.file s) => .file (decide (s = .closed)) (w.folder.nodes.get? (FileStore.recordName k))
  | some (.outside key) => .outside (view key k w.outside)

/-- Between two worlds nothing happens to the chats of `P`. Stores that are opened do not know them. -/
structure Spares (P : ChatId → Prop) (w w' : World σ) : Prop where
  places : w.stores.length ≤ w'.stores.length
  kinds : ∀ {place}, place < w.stores.length →
    (w'.stores[place]?).map Store.kind = (w.stores[place]?).map Store.kind
  stores : ∀ {k}, P k → ∀ {place}, place < w.stores.length →
    (w'.stores[place]?).map (Store.glimpse k) = (w.stores[place]?).map (Store.glimpse k)
  opened : ∀ {k}, P k → ∀ {place s}, w.stores.length ≤ place → w'.stores[place]? = some (.memory s) →
    s.records.get? k = none
  records : ∀ {k}, P k →
    w'.folder.nodes.get? (FileStore.recordName k) = w.folder.nodes.get? (FileStore.recordName k)
  drafts : ∀ {k}, P k →
    w'.folder.nodes.get? (FileStore.draftName k) = w.folder.nodes.get? (FileStore.draftName k)
  outside : ∀ {k}, P k → ∀ key, view key k w'.outside = view key k w.outside

variable {view} {P : ChatId → Prop} {w w' w'' : World σ}

theorem Spares.refl (w : World σ) : w.Spares view P w where
  places := Nat.le_refl _
  kinds _ := rfl
  stores _ _ _ := rfl
  opened _ place _ old has := by
    have beyond := (List.getElem?_eq_some_iff.mp has).1
    omega
  records _ := rfl
  drafts _ := rfl
  outside _ _ := rfl

theorem Spares.trans (h : w.Spares view P w') (h' : w'.Spares view P w'') : w.Spares view P w'' where
  places := Nat.le_trans h.places h'.places
  kinds inside := (h'.kinds (Nat.lt_of_lt_of_le inside h.places)).trans (h.kinds inside)
  stores hk place inside := (h'.stores hk (Nat.lt_of_lt_of_le inside h.places)).trans (h.stores hk inside)
  opened {k} hk place s old has := by
    by_cases inside : place < w'.stores.length
    · have same := h'.stores hk inside
      rw [has] at same
      cases had : w'.stores[place]? with
      | none => simp [had] at same
      | some held =>
        cases held with
        | memory s₁ =>
          simp only [had, Option.map_some, Store.glimpse, Option.some.injEq, Glimpse.memory.injEq] at same
          rw [same.2]
          exact h.opened hk old had
        | file | outside => simp [had, Store.glimpse] at same
    · exact h'.opened hk (Nat.le_of_not_lt inside) has
  records hk := (h'.records hk).trans (h.records hk)
  drafts hk := (h'.drafts hk).trans (h.drafts hk)
  outside hk key := (h'.outside hk key).trans (h.outside hk key)

theorem Spares.kept_eq (h : w.Spares view P w') {k : ChatId} (hk : P k) {store : StoreId}
    (inside : store.place < w.stores.length) : w'.kept view store k = w.kept view store k := by
  have same := h.stores hk inside
  unfold kept
  cases has : w.stores[store.place]? <;> cases has' : w'.stores[store.place]? <;> simp [has, has'] at same
  · rfl
  · rename_i held held'
    cases held <;> cases held' <;> simp [Store.glimpse] at same
    · simp [same]
    · simp [same, h.records hk]
    · rw [same]
      exact congrArg _ (h.outside hk _)

theorem spares_of_stores (stores : w'.stores = w.stores) (folder : w'.folder = w.folder)
    (outside : ∀ key k, view key k w'.outside = view key k w.outside) : w.Spares view P w' where
  places := by rw [stores]
  kinds _ := by rw [stores]
  stores _ _ _ := by rw [stores]
  opened _ _ _ old has := by
    rw [stores] at has
    have beyond := (List.getElem?_eq_some_iff.mp has).1
    omega
  records _ := by rw [folder]
  drafts _ := by rw [folder]
  outside _ key := outside key _

theorem spares_set {place : Nat} {held : Store} (held' : Store) (has : w.stores[place]? = some held)
    (kind : held'.kind = held.kind) (same : ∀ k, P k → held'.glimpse k = held.glimpse k)
    (stores : w'.stores = w.stores.set place held')
    (records : ∀ k, P k → w'.folder.nodes.get? (FileStore.recordName k) = w.folder.nodes.get? (FileStore.recordName k))
    (drafts : ∀ k, P k → w'.folder.nodes.get? (FileStore.draftName k) = w.folder.nodes.get? (FileStore.draftName k))
    (outside : w'.outside = w.outside) : w.Spares view P w' where
  places := by simp [stores]
  kinds {place'} inside := by
    rw [stores]
    by_cases here : place = place'
    · subst here
      rw [List.getElem?_set_self inside, has]
      exact congrArg some kind
    · rw [List.getElem?_set_ne here]
  stores {k} hk place' inside := by
    rw [stores]
    by_cases here : place = place'
    · subst here
      rw [List.getElem?_set_self inside, has]
      exact congrArg some (same k hk)
    · rw [List.getElem?_set_ne here]
  opened _ place' s old has := by
    rw [stores] at has
    have beyond := (List.getElem?_eq_some_iff.mp has).1
    rw [List.length_set] at beyond
    omega
  records hk := records _ hk
  drafts hk := drafts _ hk
  outside _ _ := by rw [outside]

variable {out : Outside σ}

theorem spares_access (keeps : out.Keeps view) (store : StoreId) {chat : ChatId} (op : Operation α)
    (other : ¬ P chat) (w : World σ) : w.Spares view P (access out store chat op w).2 := by
  have others : ∀ k, P k → k ≠ chat := by
    rintro k hk rfl
    exact other hk
  unfold access
  cases has : w.stores[store.place]? with
  | none => exact .refl w
  | some held =>
    cases held with
    | memory s =>
      refine spares_set (.memory (s.perform chat op).2) has rfl (fun k hk => ?_) rfl (fun _ _ => rfl) (fun _ _ => rfl) rfl
      simp only [Store.glimpse, s.get?_perform op (others k hk), s.closed_perform]
    | file s =>
      refine spares_set (.file (s.perform w.folder chat op).2.1) has rfl (fun k hk => ?_) rfl (fun k hk => ?_)
        (fun k hk => ?_) rfl
      · simp only [Store.glimpse, s.closed_perform]
      · refine s.nodes_perform _ (fun same => others k hk (FileStore.recordName_injective same)) ?_ op
        exact FileStore.recordName_ne_draftName _ _
      · refine s.nodes_perform _ ?_ (fun same => others k hk (FileStore.draftName_injective same)) op
        exact (FileStore.recordName_ne_draftName _ _).symm
    | outside key =>
      refine ⟨Nat.le_refl _, fun _ => rfl, fun _ _ _ => rfl, fun hk place s old has => ?_, fun _ => rfl, fun _ => rfl,
        fun hk key' => keeps.access key chat op _ key' _ (others _ hk)⟩
      have beyond := (List.getElem?_eq_some_iff.mp has).1
      exact absurd beyond (Nat.not_lt_of_le old)

theorem spares_openStore (kind : StoreKind) (opened : List (StoreKind × StoreId)) (w : World σ) :
    w.Spares view P (openStore kind opened w).2.2 := by
  unfold openStore
  split
  · exact .refl w
  · refine ⟨by simp, fun {place} inside => ?_, fun _ place inside => ?_, fun hk place s old has => ?_,
      fun _ => rfl, fun _ => rfl, fun _ _ => rfl⟩
    · rw [List.getElem?_append_left inside]
    · rw [List.getElem?_append_left inside]
    · rw [List.getElem?_append_right old] at has
      have new := List.mem_of_getElem? has
      rw [List.mem_singleton] at new
      cases kind with
      | memory =>
        cases new
        rfl
      | file | outside => cases new

def openTrack (kind : Option StoreKind) (opened : List (StoreKind × StoreId)) (w : World σ) :
    Option StoreId × List (StoreKind × StoreId) × World σ :=
  match kind with
  | none => (none, opened, w)
  | some kind => (some (openStore kind opened w).1, (openStore kind opened w).2)

theorem openAll_eq (plan : StorePlan) (w : World σ) :
    openAll plan w =
      let r := openTrack plan.conversation [] w
      let r' := openTrack plan.facts r.2.1 r.2.2
      let r'' := openTrack plan.summaries r'.2.1 r'.2.2
      (⟨r.1, r'.1, r''.1⟩, r''.2.2) := by
  obtain ⟨conversation, facts, summaries⟩ := plan
  cases conversation <;> cases facts <;> cases summaries <;> rfl

theorem spares_openTrack (kind : Option StoreKind) (opened : List (StoreKind × StoreId)) (w : World σ) :
    w.Spares view P (openTrack kind opened w).2.2 := by
  cases kind with
  | none => exact .refl w
  | some kind => exact spares_openStore kind opened w

theorem spares_openAll (plan : StorePlan) (w : World σ) : w.Spares view P (openAll plan w).2 := by
  rw [openAll_eq]
  exact ((spares_openTrack _ _ _).trans (spares_openTrack _ _ _)).trans (spares_openTrack _ _ _)

end World

/-- **Turns in one's own chats spare the others.** -/
theorem spares_turnDrift {out : Outside σ} {view : Nat → ChatId → σ → β} (keeps : out.Keeps view)
    (P : ChatId → Prop) : TurnDrift out (fun k => ¬ P k) (World.Spares view P) where
  trans h h' := h.trans h'
  clock _ _ := World.spares_of_stores rfl rfl fun _ _ => rfl
  outside _ _ moved := World.spares_of_stores rfl rfl fun key k => keeps.moves moved key k
  facts store _ op _ own := along_modifyGet (World.spares_access keeps store op own)
  addProvider _ _ := World.spares_of_stores rfl rfl fun _ _ => rfl
  addAgent _ _ _ _ := World.spares_of_stores rfl rfl fun _ _ => rfl
  setTask _ _ _ _ := World.spares_of_stores rfl rfl fun _ _ => rfl
  record store _ m own := along_modifyGet (World.spares_access keeps store (.append m) own)

end Concierge
