import Concierge.Proofs.Chat.Filing
import Concierge.Proofs.Memory.Files
import Concierge.Proofs.Memory.Record

/-!
# Stores in files work

A store that has a folder to itself, on which every call works, keeps what is left in it for as long as its records
can be read. That holds of transcripts in any case (`archive_onFile`), and of facts whose values last
(`factStore_onFile`). What comes of an operation is read off its record before and after (`Rewrites`).
-/

namespace Concierge

open Memory

variable {σ α : Type}

namespace Memory

namespace Folder

open FileStore

/-- Every call on the folder works. -/
structure Calm (f : Folder) : Prop where
  works : f.plan = []
  free : f.blocked = false
  draft : ∀ chat, f.nodes.get? (draftName chat) ≠ some .folder

def Legible (f : Folder) : Prop := ∀ chat, ∃ r, f.HasRecord chat r

/-- From one folder to the next the record of the chat was replaced by what the operation made of it, if it writes,
and all other records are as they were. -/
structure Rewrites (f f' : Folder) (chat : ChatId) (op : Operation α) (r r' : ChatId → ChatRecord) : Prop where
  before : ∀ k, f.HasRecord k (r k)
  after : ∀ k, f'.HasRecord k (r' k)
  others : ∀ k, k ≠ chat ∨ op.writes = false → r' k = r k
  written : op.writes = true → ChatRecord.read? (op.apply (r chat)).2.write = some (r' chat)

variable {f f' : Folder} {chat : ChatId} {op : Operation α} {r r' : ChatId → ChatRecord}

theorem HasRecord.read? {s : ChatRecord} {text : String} (h : f.HasRecord chat s)
    (found : f.nodes.get? (recordName chat) = some (.file text)) : ChatRecord.read? text = some s := by
  rcases h with ⟨absent, -⟩ | ⟨text', found', read⟩
  · rw [found] at absent
    cases absent
  · rw [found] at found'
    cases found'
    exact read

/-- Whatever is read as it was written is known after the operation. -/
theorem Rewrites.eq_of_lasting {β : Type} {g : ChatRecord → β} (h : f.Rewrites f' chat op r r')
    (lasting : ∀ s, ChatRecord.read? (op.apply (r chat)).2.write = some s → g s = g (op.apply (r chat)).2)
    (k : ChatId) : g (r' k) = if k = chat then g (op.apply (r chat)).2 else g (r k) := by
  by_cases here : k = chat
  · subst here
    rw [if_pos rfl]
    cases writes : op.writes with
    | false => rw [h.others k (.inr writes), Operation.apply_of_not_writes writes]
    | true => exact lasting _ (h.written writes)
  · rw [if_neg here, h.others k (.inl here)]

theorem Rewrites.messages_eq (h : f.Rewrites f' chat op r r') (k : ChatId) :
    (r' k).messages = if k = chat then (op.apply (r chat)).2.messages else (r k).messages :=
  h.eq_of_lasting (fun _ read => (ChatRecord.of_read read).1) k

theorem Rewrites.facts_eq (h : f.Rewrites f' chat op r r') (fit : (op.apply (r chat)).2.Fit) (k : ChatId) :
    (r' k).facts = if k = chat then (op.apply (r chat)).2.facts else (r k).facts :=
  h.eq_of_lasting (fun _ read => (ChatRecord.of_read read).2 fit) k

namespace Calm

variable (h : f.Calm)
include h

theorem keeps (has : ∀ k, f.HasRecord k (r k)) : f.Keeps r := ⟨h.works, h.free, has, h.draft⟩

theorem next_eq : f.next = (.works, f) := next_of_plan h.works

theorem load_eq (chat : ChatId) : (load chat f).2 = f := by
  unfold load read
  simp only [h.next_eq, h.free, Bool.false_eq_true, if_false]
  rcases f.nodes.get? (recordName chat) with _ | ⟨text | _ | _⟩
  · rfl
  · dsimp only
    cases ChatRecord.read? text <;> rfl
  · rfl
  · rfl

theorem erase (name : String) : { f with nodes := f.nodes.erase name }.Calm := by
  refine ⟨h.works, h.free, fun chat => ?_⟩
  rw [Table.get?_erase]
  split
  · simp
  · exact h.draft chat

theorem put {name : String} {node : Node} (apart : node = .folder → ∀ k, draftName k ≠ name) :
    { f with nodes := f.nodes.put name node }.Calm := by
  refine ⟨h.works, h.free, fun chat => ?_⟩
  rw [Table.get?_put]
  split
  · rename_i same
    exact fun folder => apart (Option.some.inj folder) chat same
  · exact h.draft chat

theorem write (name text : String) : (f.write name text).2.Calm ∧ (f.write name text).2.present = f.present := by
  unfold Folder.write
  simp only [h.next_eq]
  split
  · exact ⟨h, rfl⟩
  · exact ⟨h.put Node.noConfusion, rfl⟩

theorem rename (old : String) {new : String} (apart : ∀ k, draftName k ≠ new) :
    (f.rename old new).2.Calm ∧ (f.rename old new).2.present = f.present := by
  unfold Folder.rename
  simp only [h.next_eq]
  split
  · exact ⟨h, rfl⟩
  · split
    · exact ⟨h, rfl⟩
    · exact ⟨(h.erase old).put fun _ => apart, rfl⟩

theorem save (chat : ChatId) (s : ChatRecord) :
    (save chat s f).2.Calm ∧ (FileStore.save chat s f).2.present = f.present := by
  have drafted := h.write (draftName chat) s.write
  unfold FileStore.save
  rcases written : f.write (draftName chat) s.write with ⟨_ | _, g⟩ <;> rw [written] at drafted
  · exact drafted
  · obtain ⟨calm, there⟩ := drafted
    have renamed := calm.rename (draftName chat) fun k => (recordName_ne_draftName chat k).symm
    dsimp only at renamed there ⊢
    rcases ran : g.rename (draftName chat) (recordName chat) with ⟨_ | _, g'⟩ <;> rw [ran, there] at renamed <;>
      exact renamed

theorem ensureReady {s : FileStore} (made : s = .ready → f.present = true) :
    (s.ensureReady f).2.2.Calm ∧ ((s.ensureReady f).2.1 = .ready → (s.ensureReady f).2.2.present = true) := by
  cases s with
  | ready => exact ⟨h, fun _ => made rfl⟩
  | closed => exact ⟨h, nofun⟩
  | uninitialized =>
    have created : FileStore.uninitialized.ensureReady f = (.ok (), .ready, { f with present := true }) := by
      unfold FileStore.ensureReady create
      simp [h.next_eq, h.free]
    rw [created]
    exact ⟨⟨h.works, h.free, h.draft⟩, fun _ => rfl⟩

theorem perform {s : FileStore} (made : s = .ready → f.present = true) (chat : ChatId) (op : Operation α) :
    (s.perform f chat op).2.2.Calm ∧
      ((s.perform f chat op).2.1 = .ready → (s.perform f chat op).2.2.present = true) := by
  have performs := perform_performs s f chat op
  have ready {a s₁ f₁} (readied : s.ensureReady f = (a, s₁, f₁)) : f₁.Calm ∧ (s₁ = .ready → f₁.present = true) := by
    have calm := h.ensureReady made
    rwa [readied] at calm
  have load {a f₁ f₂} (calm : f₁.Calm) (loaded : FileStore.load chat f₁ = (a, f₂)) : f₂ = f₁ := by
    have same := calm.load_eq chat
    rwa [loaded] at same
  have save {a r f₁ f₂} (calm : f₁.Calm) (saved : FileStore.save chat r f₁ = (a, f₂)) :
      f₂.Calm ∧ f₂.present = f₁.present := by
    have kept := calm.save chat r
    rwa [saved] at kept
  generalize s.perform f chat op = after at performs
  obtain ⟨answer, s', f'⟩ := after
  cases performs with
  | refused readied => exact ready readied
  | unread readied loaded | seen readied loaded _ =>
    obtain ⟨calm, there⟩ := ready readied
    obtain rfl := load calm loaded
    exact ⟨calm, there⟩
  | unsaved readied loaded _ saved | saved readied loaded _ saved =>
    obtain ⟨calm, there⟩ := ready readied
    obtain rfl := load calm loaded
    obtain ⟨calm', same⟩ := save calm saved
    exact ⟨calm', fun isReady => same.trans (there isReady)⟩

end Calm

end Folder

namespace FileStore

variable {s : FileStore} {f : Folder} {chat : ChatId} {op : Operation α}

/-- A record that is there after an operation was there before it, or is what the operation wrote. -/
theorem hasRecord_before {k : ChatId} {r' : ChatRecord} (h : (s.perform f chat op).2.2.HasRecord k r') :
    f.HasRecord k r' ∨ (k = chat ∧ op.writes = true ∧
      ∃ r, f.HasRecord chat r ∧ ChatRecord.read? (op.apply r).2.write = some r') := by
  have performs := perform_performs s f chat op
  rcases answered : (s.perform f chat op).1 with e | a
  · exact .inl (h.congr_record (performs.sameBut answered _ (recordName_ne_draftName k chat)).symm)
  · by_cases here : k = chat
    · subst here
      cases writes : op.writes with
      | false => exact .inl (h.congr (performs.nodes_eq writes).symm)
      | true =>
        obtain ⟨r, before, -, written⟩ := performs.succeeded answered
        exact .inr ⟨rfl, rfl, r, before, h.read? (written writes).1⟩
    · have same := s.nodes_perform f (fun e => here (recordName_injective e)) (recordName_ne_draftName k chat) op
      exact .inl (h.congr_record same.symm)

theorem legible_before (legible : (s.perform f chat op).2.2.Legible) : f.Legible := by
  intro k
  obtain ⟨r', has⟩ := legible k
  rcases hasRecord_before has with before | ⟨rfl, -, r, before, -⟩
  · exact ⟨r', before⟩
  · exact ⟨r, before⟩

/-- **An operation on a folder that is calm rewrites the record of its chat**, as long as records can be read. -/
theorem perform_rewrites (calm : f.Calm) (made : s = .ready → f.present = true) (isOpen : s ≠ .closed)
    (legible : (s.perform f chat op).2.2.Legible) :
    ∃ r r', f.Rewrites (s.perform f chat op).2.2 chat op r r' := by
  choose r before using legible_before legible
  choose r' after using legible
  obtain ⟨f', performed, -⟩ := (calm.keeps before).perform_eq isOpen made chat op
  have answered : (s.perform f chat op).1 = .ok (op.apply (r chat)).1 := by rw [performed]
  refine ⟨r, r', before, after, fun k apart => ?_, fun writes => ?_⟩
  · rcases hasRecord_before (after k) with before' | ⟨rfl, writes, -⟩
    · exact before'.unique (before k)
    · simp [writes] at apart
  · obtain ⟨r₀, has, -, written⟩ := (perform_performs s f chat op).succeeded answered
    rw [← has.unique (before chat)]
    exact (after chat).read? (written writes).1

end FileStore

end Memory

namespace World

/-! ## The store in the world -/

/-- The store keeps its records in the folder, no other store does, and every call on the folder works. -/
structure OnFile (store : StoreId) (w : World σ) : Prop where
  kept : ∃ s, w.stores[store.place]? = some (.file s) ∧ (s = .ready → w.folder.present = true)
  alone : ∀ place s, w.stores[place]? = some (.file s) → place = store.place
  calm : w.folder.Calm

/-- The store is open, and all its records can be read. -/
structure OpenOnFile (store : StoreId) (w : World σ) : Prop extends OnFile store w where
  isOpen : w.stores[store.place]? ≠ some (.file .closed)
  legible : w.folder.Legible

variable {out : Outside σ} {store other : StoreId} {w w' : World σ} {chat : ChatId} {op : Operation α}

/-- The files are the same, and so are the stores that keep records in files. -/
def AlikeOnFile (w w' : World σ) : Prop :=
  w'.folder = w.folder ∧ ∀ (place : Nat) (s : FileStore),
    w'.stores[place]? = some (.file s) ↔ w.stores[place]? = some (.file s)

theorem alikeOnFile_of_stores (stores : w'.stores = w.stores) (folder : w'.folder = w.folder) : w.AlikeOnFile w' :=
  ⟨folder, fun _ _ => by rw [stores]⟩

section
variable (alike : w.AlikeOnFile w')
include alike

theorem AlikeOnFile.onFile (h : w.OnFile store) : w'.OnFile store := by
  obtain ⟨folder, stores⟩ := alike
  obtain ⟨⟨s, found, made⟩, alone, calm⟩ := h
  refine ⟨⟨s, (stores _ _).mpr found, ?_⟩, fun place s there => alone place s ((stores _ _).mp there), ?_⟩
  · rwa [folder]
  · rwa [folder]

theorem AlikeOnFile.openOnFile (h : w.OnFile store) (ok : w'.OpenOnFile store) : w.OpenOnFile store := by
  obtain ⟨folder, stores⟩ := alike
  refine ⟨h, fun closed => ok.isOpen ((stores _ _).mpr closed), ?_⟩
  rw [← folder]
  exact ok.legible

theorem AlikeOnFile.answer_eq (h : w.OnFile store) (chat : ChatId) (op : Operation α) :
    (access out store chat op w').1 = (access out store chat op w).1 := by
  obtain ⟨s, found, -⟩ := h.kept
  obtain ⟨folder, stores⟩ := alike
  unfold access
  simp only [found, (stores _ _).mpr found, folder]

end

theorem alikeOnFile_of_elsewhere (h : w.OnFile store) (ne : other ≠ store) (chat : ChatId) (op : Operation α) :
    w.AlikeOnFile (access out other chat op w).2 := by
  have apart : other.place ≠ store.place := fun same => ne (by cases other; cases store; simp_all)
  unfold access
  cases held : w.stores[other.place]? with
  | none => exact alikeOnFile_of_stores rfl rfl
  | some kept =>
    cases kept with
    | memory s =>
      refine ⟨rfl, fun place s' => ?_⟩
      by_cases here : place = other.place
      · subst here
        simp [held, List.getElem?_set_self (List.getElem?_eq_some_iff.mp held).1]
      · simp [List.getElem?_set_ne (Ne.symm here)]
    | file s => exact absurd (h.alone _ _ held) apart
    | outside key => exact alikeOnFile_of_stores rfl rfl

theorem OpenOnFile.answer_eq (ok : w.OpenOnFile store) {r : ChatId → ChatRecord}
    (has : ∀ k, w.folder.HasRecord k (r k)) (chat : ChatId) (op : Operation α) :
    (access out store chat op w).1 = .ok (op.apply (r chat)).1 := by
  obtain ⟨s, found, made⟩ := ok.kept
  have isOpen : s ≠ .closed := by
    rintro rfl
    exact ok.isOpen found
  obtain ⟨f', performed, -⟩ := (ok.calm.keeps has).perform_eq isOpen made chat op
  rw [access_file out found, performed]

variable (out) in
/-- The store stays where it is, and what happens to it can be read off the records. -/
theorem access_onFile (h : w.OnFile store) (chat : ChatId) (op : Operation α) :
    (access out store chat op w).2.OnFile store ∧ ((access out store chat op w).2.OpenOnFile store →
      w.OpenOnFile store ∧ ∃ r r', w.folder.Rewrites (access out store chat op w).2.folder chat op r r') := by
  have ⟨⟨s, found, made⟩, alone, calm⟩ := h
  have inside : store.place < w.stores.length := (List.getElem?_eq_some_iff.mp found).1
  obtain ⟨calm', made'⟩ := calm.perform made chat op
  rw [access_file out found]
  refine ⟨⟨⟨_, List.getElem?_set_self inside, made'⟩, fun place s' there => ?_, calm'⟩, fun ok => ?_⟩
  · by_contra apart
    rw [List.getElem?_set_ne (Ne.symm apart)] at there
    exact apart (alone place s' there)
  · have isOpen : s ≠ .closed := by
      rintro rfl
      exact ok.isOpen (List.getElem?_set_self inside)
    obtain ⟨r, r', rewrites⟩ := FileStore.perform_rewrites calm made isOpen ok.legible
    refine ⟨⟨h, fun closed => isOpen ?_, FileStore.legible_before ok.legible⟩, r, r', rewrites⟩
    rw [found] at closed
    cases closed
    rfl

/-! ## Transcripts in files -/

theorem stored_onFile (ok : w.OpenOnFile store) {r : ChatId → ChatRecord} (has : ∀ k, w.folder.HasRecord k (r k))
    (k : ChatId) : w.stored out store k = some (r k).messages := by
  unfold stored
  rw [ok.answer_eq has]
  rfl

variable (out) in
theorem adds_of_alike (alike : w.OnFile store → w.AlikeOnFile w') :
    Adds out store (OnFile store) (OpenOnFile store) (fun _ => []) w w' := by
  intro calm
  refine ⟨(alike calm).onFile calm, fun ok => ⟨(alike calm).openOnFile calm ok, fun k => ?_⟩⟩
  unfold stored
  rw [(alike calm).answer_eq calm]
  simp

theorem stored_access_onFile (h : w.OnFile store) (chat : ChatId) (op : Operation α)
    (ok : (access out store chat op w).2.OpenOnFile store) :
    w.OpenOnFile store ∧ ∃ r : ChatId → ChatRecord, ∀ k, w.stored out store k = some (r k).messages ∧
      (access out store chat op w).2.stored out store k =
        some (if k = chat then (op.apply (r chat)).2.messages else (r k).messages) := by
  obtain ⟨before, r, r', rewrites⟩ := (access_onFile out h chat op).2 ok
  refine ⟨before, r, fun k => ⟨stored_onFile before rewrites.before k, ?_⟩⟩
  rw [stored_onFile ok rewrites.after, rewrites.messages_eq]

theorem adds_access_onFile (other : StoreId) (chat : ChatId) {op : Operation α} {ms : List Message} (w : World σ)
    (added : ∀ r, (op.apply r).2.messages = r.messages ++ ms) :
    Adds out store (OnFile store) (OpenOnFile store) (fun k => if other = store ∧ chat = k then ms else []) w
      (access out other chat op w).2 := by
  by_cases here : other = store
  · subst here
    refine fun calm => ⟨(access_onFile out calm chat op).1, fun ok => ?_⟩
    obtain ⟨before, r, kept⟩ := stored_access_onFile calm chat op ok
    refine ⟨before, fun k => ?_⟩
    rw [(kept k).1, (kept k).2]
    by_cases same : k = chat
    · simp [same, added]
    · simp [same, Ne.symm same]
  · refine (adds_of_alike out fun calm => alikeOnFile_of_elsewhere calm here chat op).congr fun k => ?_
    simp [here]

end World

open World in
/-- **A store in files takes everything that is done with a chat** as long as its records can be read. -/
theorem archive_onFile (out : Outside σ) (store : StoreId) : Archive out store (OnFile store) (OpenOnFile store) where
  reads w k ok := by
    choose r has using ok.legible
    exact ⟨_, stored_onFile ok has k⟩
  clock w c := adds_of_alike out fun _ => alikeOnFile_of_stores rfl rfl
  outside w o _ := adds_of_alike out fun _ => alikeOnFile_of_stores rfl rfl
  registry w r := adds_of_alike out fun _ => alikeOnFile_of_stores rfl rfl
  now w := adds_of_alike out fun _ => alikeOnFile_of_stores rfl rfl
  facts other chat op onFacts w := by
    refine (adds_access_onFile other chat w fun r => ?_).congr fun k => ite_self []
    rw [Operation.messages_apply onFacts, List.append_nil]
  record other chat m w := adds_access_onFile other chat w fun _ => rfl
  clear other chat w calm := by
    by_cases here : other = store
    · subst here
      refine ⟨(access_onFile out calm chat .clear).1, fun ok => ?_⟩
      obtain ⟨before, r, kept⟩ := stored_access_onFile calm chat .clear ok
      refine ⟨before, fun k => ?_⟩
      rw [(kept k).1, (kept k).2]
      by_cases same : k = chat
      · simp [same, Operation.apply]
      · simp [same, Ne.symm same]
    · obtain ⟨calm', gained⟩ := adds_of_alike out (fun _ => alikeOnFile_of_elsewhere calm here chat .clear) calm
      refine ⟨calm', fun ok => ?_⟩
      obtain ⟨before, same⟩ := gained ok
      exact ⟨before, fun k => by simpa [here] using same k⟩
  keeps other chat op keeps w := by
    refine (adds_access_onFile other chat w fun r => ?_).congr fun k => ite_self []
    rw [Operation.messages_apply_of_keeps keeps, List.append_nil]

/-! ## Facts in files -/

theorem Memory.Operation.fit_apply {op : Operation α} {chat : ChatId} {r : ChatRecord}
    (lasts : Memo.AllFit Value.Lasts (op.memos chat)) (fit : r.Fit) : (op.apply r).2.Fit := by
  refine ⟨op.ascending_apply fit.ordered, ?_⟩
  cases sets : op.setsFact with
  | false =>
    rw [facts_apply sets]
    exact fit.lasts
  | true =>
    cases op with
    | setFact key v =>
      intro x hx
      rcases mem_entries_insertSorted hx with rfl | old
      · exact lasts ⟨chat, key, x⟩ (List.mem_singleton.mpr rfl)
      · exact fit.lasts x old
    | append | history | clear | fact? | allFacts | addSummary | latest? | summaries => cases sets

namespace World

/-- All facts that are on file are in order, and their values last. -/
structure FactsOnFile (store : StoreId) (w : World σ) : Prop extends OnFile store w where
  fit : ∀ k r, w.folder.HasRecord k r → r.Fit

variable {out : Outside σ} {store : StoreId} {w w' : World σ}

/-- A store that is opened in a folder without records has the folder to itself. -/
theorem onFile_opened (tidy : w.folder.Tidy)
    (first : ∀ (place : Nat) (s : FileStore), w.stores[place]? ≠ some (.file s)) :
    (opened .file w).2.FactsOnFile (opened .file w).1 ∧ (opened .file w).2.OpenOnFile (opened .file w).1 := by
  rw [opened_eq]
  have here : (w.stores ++ [Store.ofKind .file])[w.stores.length]? = some (.file .uninitialized) :=
    List.getElem?_concat_length
  have onFile : OnFile ⟨w.stores.length⟩ { w with stores := w.stores ++ [.ofKind .file] } := by
    refine ⟨⟨_, here, nofun⟩, fun place s found => ?_, tidy.works, tidy.free, tidy.draft⟩
    rcases Nat.lt_or_ge place w.stores.length with before | behind
    · rw [List.getElem?_append_left before] at found
      exact absurd found (first place s)
    · have inside := (List.getElem?_eq_some_iff.mp found).1
      rw [List.length_append, List.length_singleton] at inside
      exact Nat.le_antisymm (Nat.le_of_lt_succ inside) behind
  refine ⟨⟨onFile, fun k r has => ?_⟩, onFile, fun closed => ?_, fun k => ⟨{}, .inl ⟨tidy.record k, rfl⟩⟩⟩
  · rw [has.unique (.inl ⟨tidy.record k, rfl⟩)]
    exact ChatRecord.fit_empty
  · rw [here] at closed
    cases closed

theorem fact?_onFile (ok : w.OpenOnFile store) {r : ChatId → ChatRecord} (has : ∀ k, w.folder.HasRecord k (r k))
    (k : ChatId) (key : String) : w.fact? out store k key = lookupName key (r k).facts := by
  unfold fact?
  rw [ok.answer_eq has]
  rfl

theorem notes_of_alike (alike : w.OnFile store → w.AlikeOnFile w') :
    Notes out store Value.Lasts (FactsOnFile store) (OpenOnFile store) [] w w' := by
  rintro - calm
  have same := alike calm.toOnFile
  refine ⟨⟨same.onFile calm.toOnFile, fun k r has => calm.fit k r ?_⟩,
    fun ok => ⟨same.openOnFile calm.toOnFile ok, fun k key => ?_⟩⟩
  · rwa [same.1] at has
  · unfold fact?
    rw [same.answer_eq calm.toOnFile]
    rfl

theorem notes_access_onFile (chat : ChatId) (op : Operation α) (w : World σ) :
    Notes out store Value.Lasts (FactsOnFile store) (OpenOnFile store) (op.memos chat) w
      (access out store chat op w).2 := by
  intro lasts calm
  obtain ⟨onFile, rewrites⟩ := access_onFile out calm.toOnFile chat op
  refine ⟨⟨onFile, fun k r' has => ?_⟩, fun ok => ?_⟩
  · obtain ⟨s, found, -⟩ := calm.kept
    rw [access_file out found] at has
    rcases FileStore.hasRecord_before has with before | ⟨rfl, -, r, before, read⟩
    · exact calm.fit k r' before
    · exact (Operation.fit_apply lasts (calm.fit k r before)).of_read read
  · obtain ⟨before, r, r', rewrites⟩ := rewrites ok
    refine ⟨before, fun k key => ?_⟩
    have fit := Operation.fit_apply lasts (calm.fit chat _ (rewrites.before chat))
    rw [fact?_onFile before rewrites.before, fact?_onFile ok rewrites.after, rewrites.facts_eq fit, ← op.lookup_apply]
    by_cases here : k = chat <;> simp [here]

end World

open World in
/-- **A store in files is a store of facts that works** as long as its records can be read, for facts whose values
last. -/
theorem factStore_onFile (out : Outside σ) (store : StoreId) :
    FactStore out store Value.Lasts (FactsOnFile store) (OpenOnFile store) where
  fact chat key _ ok := by
    choose r has using ok.legible
    exact ⟨_, ok.answer_eq has chat (.fact? key)⟩
  all chat calm ok := by
    choose r has using ok.legible
    refine ⟨_, ok.answer_eq has chat .allFacts, (calm.fit chat _ (has chat)).ordered, fun key => ?_⟩
    exact (fact?_onFile ok has chat key).symm
  set chat key v _ ok := by
    choose r has using ok.legible
    exact ok.answer_eq has chat (.setFact key v)
  sets chat key v w := notes_access_onFile chat (.setFact key v) w
  others {_ other} chat op apart w := by
    by_cases here : other = store
    · subst here
      rw [← Operation.memos_of_not_sets (apart.resolve_left fun elsewhere => elsewhere rfl) chat]
      exact notes_access_onFile chat op w
    · exact notes_of_alike fun calm => alikeOnFile_of_elsewhere calm here chat op
  clock _ _ := notes_of_alike fun _ => alikeOnFile_of_stores rfl rfl
  outside _ _ _ := notes_of_alike fun _ => alikeOnFile_of_stores rfl rfl
  now _ := notes_of_alike fun _ => alikeOnFile_of_stores rfl rfl
  registry _ _ := notes_of_alike fun _ => alikeOnFile_of_stores rfl rfl

end Concierge
