import Concierge.Proofs.ChatId
import Concierge.Proofs.Memory.Reference
import Concierge.Proofs.Storage
import Concierge.Rehearsal.Script

/-!
# Both stores do what a store has to do

A store in memory changes its table in place. A store in files reads a whole record, writes it anew
beside the old one and renames it, at every operation. Still both follow the same ledger, whatever is
done with them in whatever order (`MirrorsMemory.follow`, `MirrorsFile.follow`), so they answer the same,
and as the reference says.
-/

namespace Concierge

open Memory

variable {σ τ : Type} {α β : Type}

def ChatRecord.ReadsBack (r : ChatRecord) : Prop := ChatRecord.read? r.write = some r

namespace Memory

def Ledger.Legible (l : Ledger) : List Event → Prop
  | [] => True
  | .perform chat op :: es =>
    (op.writes = true → l.closed = false → (op.apply (l.records chat)).2.ReadsBack) ∧
      (l.step (.perform chat op)).Legible es
  | e :: es => (l.step e).Legible es

theorem Ledger.Legible.prefix {l : Ledger} {es es' : List Event} (h : l.Legible (es ++ es')) : l.Legible es := by
  induction es generalizing l with
  | nil => trivial
  | cons e es ih =>
    cases e with
    | perform chat op => exact ⟨h.1, ih h.2⟩
    | close _ | reopen => exact ih h

/-! ## Folders on which every call works -/

namespace Folder

open FileStore

structure Keeps (f : Folder) (records : ChatId → ChatRecord) : Prop where
  works : f.plan = []
  free : f.blocked = false
  record : ∀ chat, (f.nodes.get? (recordName chat) = none ∧ records chat = {}) ∨
    ∃ text, f.nodes.get? (recordName chat) = some (.file text) ∧ ChatRecord.read? text = some (records chat)
  draft : ∀ chat, f.nodes.get? (draftName chat) ≠ some .folder

/-- No call on the folder fails, and what it holds is of no concern to a store. -/
structure Tidy (f : Folder) : Prop where
  works : f.plan = []
  free : f.blocked = false
  record : ∀ chat, f.nodes.get? (recordName chat) = none
  draft : ∀ chat, f.nodes.get? (draftName chat) ≠ some .folder

theorem Tidy.keeps {f : Folder} (h : f.Tidy) : f.Keeps fun _ => {} :=
  ⟨h.works, h.free, fun chat => .inl ⟨h.record chat, rfl⟩, h.draft⟩

def withRecord (f : Folder) (chat : ChatId) (text : String) : Folder :=
  { f with nodes :=
      ((f.nodes.put (draftName chat) (.file text)).erase (draftName chat)).put (recordName chat) (.file text) }

theorem rename_eq {f : Folder} {old new text : String} (works : f.plan = [])
    (file : f.nodes.get? old = some (.file text)) (notFolder : f.nodes.get? new ≠ some .folder) :
    f.rename old new = (.ok (), { f with nodes := (f.nodes.erase old).put new (.file text) }) := by
  unfold rename next
  simp only [works, file]
  rw [if_neg fun refused => notFolder refused.2]

theorem next_of_plan {f : Folder} (works : f.plan = []) : f.next = (.works, f) := by
  unfold next
  rw [works]

namespace Keeps

variable {f : Folder} {records : ChatId → ChatRecord} (h : f.Keeps records)
include h

theorem next_eq : f.next = (.works, f) := next_of_plan h.works

theorem load_eq (chat : ChatId) : load chat f = (.ok (records chat), f) := by
  unfold load read
  rw [h.next_eq]
  simp only [h.free, Bool.false_eq_true, if_false]
  rcases h.record chat with ⟨absent, empty⟩ | ⟨text, found, parsed⟩
  · simp only [absent, empty]
  · simp only [found, parsed]

theorem ensureReady_eq {s : FileStore} (isOpen : s ≠ .closed) (made : s = .ready → f.present = true) :
    ∃ f', s.ensureReady f = (.ok (), .ready, f') ∧ f'.Keeps records ∧ f'.present = true := by
  cases s with
  | closed => exact absurd rfl isOpen
  | ready => exact ⟨f, rfl, h, made rfl⟩
  | uninitialized =>
    refine ⟨{ f with present := true }, ?_, ⟨h.works, h.free, h.record, h.draft⟩, rfl⟩
    unfold ensureReady create
    rw [h.next_eq]
    simp [h.free]

theorem save_eq (there : f.present = true) (chat : ChatId) (r : ChatRecord) :
    ∃ f', save chat r f = (.ok (), f') ∧ f'.present = true ∧
      (r.ReadsBack → f'.Keeps (Function.update records chat r)) := by
  have notFolder : f.nodes.get? (recordName chat) ≠ some .folder := by
    rcases h.record chat with ⟨absent, -⟩ | ⟨text, found, -⟩
    · simp [absent]
    · simp [found]
  have drafted : (f.nodes.put (draftName chat) (.file r.write)).get? (draftName chat) = some (.file r.write) := by
    rw [Table.get?_put, if_pos rfl]
  have kept : (f.nodes.put (draftName chat) (.file r.write)).get? (recordName chat) = f.nodes.get? (recordName chat) := by
    rw [Table.get?_put, if_neg (recordName_ne_draftName _ _)]
  refine ⟨f.withRecord chat r.write, ?_, there, fun reads => ⟨h.works, h.free, fun k => ?_, fun k => ?_⟩⟩
  · -- The draft is a file by then and the record is no folder, so it can be renamed.
    have written : f.write (draftName chat) r.write =
        (.ok (), { f with nodes := f.nodes.put (draftName chat) (.file r.write) }) := by
      unfold write
      rw [h.next_eq]
      simp only [h.free, there, h.draft chat, Bool.false_eq_true, Bool.not_true, or_self, if_false]
    have renamed := rename_eq (f := { f with nodes := f.nodes.put (draftName chat) (.file r.write) }) h.works
      drafted (kept.trans_ne notFolder)
    unfold save
    simp only [written, renamed]
    rfl
  · unfold withRecord
    by_cases same : k = chat
    · subst same
      exact .inr ⟨r.write, by rw [Table.get?_put, if_pos rfl], by rw [Function.update_self]; exact reads⟩
    · rw [Table.get?_put, if_neg fun e => same (recordName_injective e), Table.get?_erase,
        if_neg (recordName_ne_draftName _ _), Table.get?_put, if_neg (recordName_ne_draftName _ _),
        Function.update_of_ne same]
      exact h.record k
  · unfold withRecord
    rw [Table.get?_put, if_neg (recordName_ne_draftName _ _).symm, Table.get?_erase]
    by_cases same : draftName k = draftName chat
    · simp [same]
    · rw [if_neg same, Table.get?_put, if_neg same]
      exact h.draft k

theorem perform_eq {s : FileStore} (isOpen : s ≠ .closed) (made : s = .ready → f.present = true) (chat : ChatId)
    (op : Operation α) :
    ∃ f', s.perform f chat op = (.ok (op.apply (records chat)).1, .ready, f') ∧ f'.present = true ∧
      ((op.writes = true → (op.apply (records chat)).2.ReadsBack) →
        f'.Keeps (Function.update records chat (op.apply (records chat)).2)) := by
  obtain ⟨f₁, readied, keeps, there⟩ := h.ensureReady_eq isOpen made
  unfold perform
  simp only [readied, keeps.load_eq]
  by_cases writes : op.writes = true
  · obtain ⟨f₂, saved, there', kept⟩ := keeps.save_eq there chat (op.apply (records chat)).2
    simp only [writes, if_true, saved]
    exact ⟨f₂, rfl, there', fun reads => kept (reads trivial)⟩
  · simp only [writes, Bool.false_eq_true, if_false]
    rw [Bool.not_eq_true] at writes
    refine ⟨f₁, rfl, there, fun _ => ?_⟩
    rw [Operation.apply_of_not_writes writes, Function.update_eq_self]
    exact keeps

end Keeps

end Folder

end Memory

namespace World

/-! ## What happens to one store in the world -/

def opened (kind : StoreKind) (w : World σ) : StoreId × World σ :=
  let (id, _, w) := openStore kind [] w
  (id, w)

def follow (out : Outside σ) (kind : StoreKind) (x : StoreId × World σ) : Event → StoreId × World σ
  | .perform chat op => (x.1, (access out x.1 chat op x.2).2)
  | .close _ => (x.1, closeStore out x.1 x.2)
  | .reopen => opened kind x.2

/-- What a store answers that was opened in this world, after some events. -/
def answerAfter (out : Outside σ) (kind : StoreKind) (w : World σ) (es : List Event) (chat : ChatId)
    (op : Operation α) : Except MemoryError α :=
  let (id, w) := es.foldl (follow out kind) (opened kind w)
  (access out id chat op w).1

section
variable (out : Outside σ) {x : StoreId × World σ} {l : Ledger}

theorem opened_eq (kind : StoreKind) (w : World σ) :
    opened kind w = (⟨w.stores.length⟩, { w with stores := w.stores ++ [.ofKind kind] }) := rfl

/-! ### Stores in memory -/

def MirrorsMemory (x : StoreId × World σ) (l : Ledger) : Prop :=
  ∃ s, x.2.stores[x.1.place]? = some (.memory s) ∧ s.closed = l.closed ∧ ∀ k, s.record k = l.records k

theorem mirrorsMemory_opened (w : World σ) : MirrorsMemory (opened .memory w) {} := by
  refine ⟨{}, ?_, rfl, fun _ => rfl⟩
  rw [opened_eq]
  exact List.getElem?_concat_length

theorem MirrorsMemory.answer (h : MirrorsMemory x l) (chat : ChatId) (op : Operation α) :
    (access out x.1 chat op x.2).1 = l.answer chat op := by
  obtain ⟨s, found, closed, records⟩ := h
  rw [access_memory found]
  unfold InMemory.perform Ledger.answer
  rw [closed, records]
  split <;> rfl

theorem MirrorsMemory.follow (h : MirrorsMemory x l) {e : Event} (still : e ≠ .reopen) :
    MirrorsMemory (follow out .memory x e) (l.step e) := by
  obtain ⟨s, found, closed, records⟩ := h
  have inside := (List.getElem?_eq_some_iff.mp found).1
  cases e with
  | reopen => exact absurd rfl still
  | close track =>
    refine ⟨s.close, ?_, rfl, records⟩
    dsimp only [World.follow]
    unfold closeStore
    simp only [found, List.getElem?_set_self inside]
  | perform chat op =>
    refine ⟨(s.perform chat op).2, ?_, ?_, fun k => ?_⟩
    · dsimp only [World.follow]
      rw [access_memory found]
      exact List.getElem?_set_self inside
    · rw [InMemory.closed_perform, closed]
      unfold Ledger.step
      dsimp only
      split <;> rfl
    · unfold Ledger.step
      dsimp only
      rw [← closed]
      by_cases shut : s.closed = true
      · unfold InMemory.perform
        simp [shut, records]
      · rw [InMemory.record_perform _ _ _ (by simpa using shut), records, records]
        simp [shut, Function.update_apply]

/-! ### Stores in files -/

def MirrorsFile (x : StoreId × World σ) (l : Ledger) : Prop :=
  ∃ s, x.2.stores[x.1.place]? = some (.file s) ∧ (s = .closed ↔ l.closed = true) ∧
    (s = .ready → x.2.folder.present = true) ∧ x.2.folder.Keeps l.records

theorem access_file {store : StoreId} {w : World σ} {s : FileStore} (found : w.stores[store.place]? = some (.file s))
    (chat : ChatId) (op : Operation α) : access out store chat op w = ((s.perform w.folder chat op).1,
      { w with
        stores := w.stores.set store.place (.file (s.perform w.folder chat op).2.1)
        folder := (s.perform w.folder chat op).2.2 }) := by
  unfold access
  simp only [found]

theorem mirrorsFile_opened (w : World σ) (keeps : w.folder.Keeps l.records) :
    MirrorsFile (opened .file w) { l with closed := false } := by
  refine ⟨.uninitialized, ?_, by simp, by simp, keeps⟩
  rw [opened_eq]
  exact List.getElem?_concat_length

theorem perform_closed (f : Folder) (chat : ChatId) (op : Operation α) :
    FileStore.perform .closed f chat op = (.error .closed, .closed, f) := rfl

theorem MirrorsFile.answer (h : MirrorsFile x l) (chat : ChatId) (op : Operation α) :
    (access out x.1 chat op x.2).1 = l.answer chat op := by
  obtain ⟨s, found, closed, made, keeps⟩ := h
  rw [access_file out found]
  unfold Ledger.answer
  by_cases shut : s = .closed
  · subst shut
    rw [perform_closed, if_pos (closed.mp rfl)]
  · obtain ⟨f', performed, -, -⟩ := keeps.perform_eq shut made chat op
    rw [performed, if_neg fun e => shut (closed.mpr e)]

theorem MirrorsFile.follow (h : MirrorsFile x l) {e : Event} {es : List Event} (legible : l.Legible (e :: es)) :
    MirrorsFile (follow out .file x e) (l.step e) ∧ (l.step e).Legible es := by
  obtain ⟨s, found, closed, made, keeps⟩ := h
  have inside := (List.getElem?_eq_some_iff.mp found).1
  cases e with
  | reopen => exact ⟨mirrorsFile_opened x.2 keeps, legible⟩
  | close track =>
    refine ⟨⟨.closed, ?_, by simp [Ledger.step], by simp, ?_⟩, legible⟩ <;> dsimp only [World.follow] <;>
      unfold closeStore <;> simp only [found]
    · exact List.getElem?_set_self inside
    · exact keeps
  | perform chat op =>
    refine ⟨?_, legible.2⟩
    unfold MirrorsFile World.follow Ledger.step
    dsimp only
    rw [access_file out found]
    by_cases shut : s = .closed
    · subst shut
      rw [perform_closed, if_pos (closed.mp rfl)]
      exact ⟨.closed, List.getElem?_set_self inside, closed, made, keeps⟩
    · have isOpen : l.closed = false := by simpa using fun e => shut (closed.mpr e)
      obtain ⟨f', performed, there, kept⟩ := keeps.perform_eq shut made chat op
      rw [performed, isOpen]
      exact ⟨.ready, List.getElem?_set_self inside, by simp, fun _ => there,
        kept fun writes => legible.1 writes isOpen⟩

/-! ## Any number of events -/

theorem answerAfter_memory (w : World σ) {es : List Event} (still : Event.reopen ∉ es) (chat : ChatId)
    (op : Operation α) : answerAfter out .memory w es chat op = (Ledger.after es).answer chat op := by
  have start := mirrorsMemory_opened w
  unfold answerAfter Ledger.after
  refine MirrorsMemory.answer out ?_ chat op
  generalize opened .memory w = x at start
  generalize ({} : Ledger) = l at start
  induction es generalizing x l with
  | nil => exact start
  | cons e es ih =>
    rw [List.mem_cons, not_or] at still
    exact ih still.2 _ _ (start.follow out (Ne.symm still.1))

theorem answerAfter_file {w : World σ} (tidy : w.folder.Tidy) {es : List Event} (legible : Ledger.Legible {} es)
    (chat : ChatId) (op : Operation α) :
    answerAfter out .file w es chat op = (Ledger.after es).answer chat op := by
  have start : MirrorsFile (opened .file w) {} := mirrorsFile_opened (l := {}) w tidy.keeps
  unfold answerAfter Ledger.after
  refine MirrorsFile.answer out ?_ chat op
  generalize opened .file w = x at start
  generalize ({} : Ledger) = l at start legible
  induction es generalizing x l with
  | nil => exact start
  | cons e es ih =>
    obtain ⟨next, rest⟩ := start.follow out legible
    exact ih _ _ next rest

end

/-- After these events the store answers what the reference says. The last operation has changed nothing
for another chat or another track, and nothing at all if it was a reading one; once closed the store
refuses everything until it is opened anew. -/
structure Implements (out : Outside σ) (kind : StoreKind) (w : World σ) (es : List Event) : Prop where
  reference : ∀ {α : Type} chat (op : Operation α),
    (Reference.after es).Answers chat op (answerAfter out kind w es chat op)
  apart : ∀ {α β : Type} before chat (op : Operation α) chat' (op' : Operation β),
    es = before ++ [.perform chat' op'] →
    (chat' ≠ chat ∨ op'.track ≠ op.track ∨ op'.writes = false) →
      answerAfter out kind w es chat op = answerAfter out kind w before chat op
  closed : ∀ {α : Type} before track after chat (op : Operation α), es = before ++ .close track :: after →
    Event.reopen ∉ after → answerAfter out kind w es chat op = .error .closed

theorem implements_of_ledger {out : Outside σ} {kind : StoreKind} {w : World σ} {es : List Event}
    (same : ∀ before after, es = before ++ after → ∀ {α : Type} chat (op : Operation α),
      answerAfter out kind w before chat op = (Ledger.after before).answer chat op) :
    Implements out kind w es where
  reference chat op := by
    rw [same es [] (List.append_nil es).symm]
    exact (Ledger.tells_after es).answers chat op
  apart before chat op chat' op' last apart := by
    rw [same es [] (List.append_nil es).symm, same before _ last, last]
    unfold Ledger.after
    rw [List.foldl_append]
    exact Ledger.answer_apart apart
  closed before track after chat op closes shut := by
    rw [same es [] (List.append_nil es).symm, closes]
    unfold Ledger.after Ledger.answer
    rw [List.foldl_append, List.foldl_cons, Ledger.closed_foldl rfl shut]
    rfl

/-- **The two stores implement one specification.** Whatever operations and closes come in whatever order,
a store in memory and a store in a working folder answer the same, and what the reference says. The store
in files does so across any number of openings of its folder, if its records read back. -/
theorem stores_implement_reference (out : Outside σ) (out' : Outside τ) (w : World σ) {w' : World τ}
    (tidy : w'.folder.Tidy) {es : List Event} (legible : Ledger.Legible {} es) :
    Implements out' .file w' es ∧
      (Event.reopen ∉ es → Implements out .memory w es ∧ ∀ {α : Type} chat (op : Operation α),
        answerAfter out .memory w es chat op = answerAfter out' .file w' es chat op) := by
  refine ⟨implements_of_ledger fun before after split _ chat op => ?_, fun still =>
    ⟨implements_of_ledger fun before after split _ chat op => ?_, fun chat op => ?_⟩⟩
  · rw [split] at legible
    exact answerAfter_file out' tidy legible.prefix chat op
  · rw [split, List.mem_append, not_or] at still
    exact answerAfter_memory out w still.1 chat op
  · rw [answerAfter_memory out w still, answerAfter_file out' tidy legible]

end World

namespace Rehearsal

open Memory

def vacant : World Stage := { outside := {} }

def guest : ChatId := ⟨7⟩

/-- A fact is noted, the store is closed and opened anew, and a message is kept. -/
def visits : List Event :=
  [.perform guest (.setFact "name" (.str "Ada")), .close .conversation, .reopen,
    .perform guest (.append (.user "Hi"))]

theorem readsBack_of_seen {r : ChatRecord} {name text : String} (noted : r.facts = [(name, .str text)])
    (seen : (ChatRecord.read? r.write).map (fun r' =>
      (r'.messages, r'.facts.map fun f => (f.1, f.2.data.text?), r'.summaries)) =
        some (r.messages, [(name, some text)], r.summaries)) : r.ReadsBack := by
  obtain ⟨⟨messages, facts, summaries⟩, read, same⟩ := Option.map_eq_some_iff.mp seen
  obtain ⟨_, _, _⟩ := r
  simp only [Prod.mk.injEq] at same noted
  obtain ⟨rfl, facts_eq, rfl⟩ := same
  subst noted
  match facts, facts_eq with
  | [(key, ⟨.str _, _⟩)], facts_eq =>
    simp only [List.map_cons, List.map_nil, Data.text?, List.cons.injEq, Prod.mk.injEq, Option.some.injEq,
      and_true] at facts_eq
    obtain ⟨rfl, rfl⟩ := facts_eq
    exact read

theorem legible_visits : Ledger.Legible {} visits := by
  refine ⟨fun _ _ => readsBack_of_seen rfl ?_, fun _ _ => readsBack_of_seen rfl ?_, trivial⟩
  all_goals decide +kernel

end Rehearsal

open Rehearsal in
theorem World.stores_implement_reference_visits :
    vacant.folder.Tidy ∧ Ledger.Legible {} visits ∧
      answerAfter Stage.outside .file vacant visits guest (.fact? "name") = .ok (some (.str "Ada")) ∧
      answerAfter Stage.outside .file vacant visits guest .history = .ok [.user "Hi"] := by
  have tidy : vacant.folder.Tidy := ⟨rfl, rfl, fun _ => rfl, fun _ => nofun⟩
  have implements := (stores_implement_reference Stage.outside Stage.outside vacant tidy legible_visits).1
  refine ⟨tidy, legible_visits, ?_, ?_⟩
  · obtain ⟨v, answer, given⟩ := implements.reference guest (.fact? "name")
    rw [answer, show v = some (.str "Ada") from given]
  · obtain ⟨ms, answer, given⟩ := implements.reference guest .history
    rw [answer, show ms = [.user "Hi"] from given]

end Concierge
