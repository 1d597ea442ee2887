import Concierge.Proofs.Isolation.Frame
import Concierge.Proofs.Memory.Simulation

/-!
# What a store in files leaves of its files

Any call on a folder may fail. An operation gives up at the first call that does (`FileStore.Performs`),
and only the last one, the renaming of a complete draft, touches a record. So an operation that fails leaves
all records as they were, and one that succeeds has replaced the record of its chat by a complete new one. What
it fails on is told apart: a text that is no record is reported as corrupt, what is no text as a failure to read.
-/

namespace Concierge.Memory

variable {α : Type}

namespace Folder

open FileStore

/-- The folder has this record of the chat. No file is an empty record. -/
def HasRecord (f : Folder) (chat : ChatId) (r : ChatRecord) : Prop :=
  (f.nodes.get? (recordName chat) = none ∧ r = {}) ∨
    ∃ text, f.nodes.get? (recordName chat) = some (.file text) ∧ ChatRecord.read? text = some r

def Corrupt (f : Folder) (chat : ChatId) : Prop :=
  ∃ text, f.nodes.get? (recordName chat) = some (.file text) ∧ ChatRecord.read? text = none

/-- What is there in place of the record cannot be read as a text. -/
def Unreadable (f : Folder) (chat : ChatId) : Prop :=
  (∃ bytes undecodable, f.nodes.get? (recordName chat) = some (.binary bytes undecodable)) ∨
    f.nodes.get? (recordName chat) = some .folder

def SameBut (name : String) (f f' : Folder) : Prop := ∀ n, n ≠ name → f'.nodes.get? n = f.nodes.get? n

section
variable {f f' : Folder} {name old new : String}

theorem SameBut.of_nodes (same : f'.nodes = f.nodes) : f.SameBut name f' := fun _ _ => by rw [same]

theorem HasRecord.congr_record {chat : ChatId} {r : ChatRecord} (h : f.HasRecord chat r)
    (same : f'.nodes.get? (recordName chat) = f.nodes.get? (recordName chat)) : f'.HasRecord chat r := by
  unfold HasRecord
  rw [same]
  exact h

theorem HasRecord.congr {chat : ChatId} {r : ChatRecord} (h : f.HasRecord chat r) (same : f'.nodes = f.nodes) :
    f'.HasRecord chat r :=
  h.congr_record (congrArg _ same)

theorem HasRecord.unique {chat : ChatId} {r r' : ChatRecord} (h : f.HasRecord chat r) (h' : f.HasRecord chat r') :
    r = r' := by
  rcases h with ⟨absent, rfl⟩ | ⟨text, found, parsed⟩ <;> rcases h' with ⟨absent', rfl⟩ | ⟨text', found', parsed'⟩
  · rfl
  · rw [absent] at found'
    cases found'
  · rw [absent'] at found
    cases found
  · rw [found] at found'
    cases found'
    exact Option.some.inj (parsed.symm.trans parsed')

theorem Corrupt.congr {chat : ChatId} (h : f.Corrupt chat) (same : f'.nodes = f.nodes) : f'.Corrupt chat := by
  unfold Corrupt
  rw [same]
  exact h

theorem Unreadable.congr {chat : ChatId} (h : f.Unreadable chat) (same : f'.nodes = f.nodes) :
    f'.Unreadable chat := by
  unfold Unreadable
  rw [same]
  exact h

theorem Unreadable.not_file {chat : ChatId} {text : String} (h : f.Unreadable chat) :
    f.nodes.get? (recordName chat) ≠ some (.file text) := by
  rcases h with ⟨bytes, undecodable, found⟩ | found <;> rw [found] <;> nofun

theorem HasRecord.not_unreadable {chat : ChatId} {r : ChatRecord} (h : f.HasRecord chat r) : ¬ f.Unreadable chat := by
  rintro spoiled
  rcases h with ⟨absent, -⟩ | ⟨text, found, -⟩
  · rcases spoiled with ⟨bytes, undecodable, found⟩ | found <;> rw [found] at absent <;> cases absent
  · exact spoiled.not_file found

theorem HasRecord.not_corrupt {chat : ChatId} {r : ChatRecord} (h : f.HasRecord chat r) : ¬ f.Corrupt chat := by
  rintro ⟨text, found, bad⟩
  rcases h with ⟨absent, -⟩ | ⟨text', found', good⟩
  · rw [found] at absent
    cases absent
  · rw [found] at found'
    cases found'
    rw [bad] at good
    cases good

theorem next_of_works {n : Nat} (works : ∀ l ∈ f.plan.take (n + 1), l = .works) :
    ∃ g, f.next = (.works, g) ∧ g.nodes = f.nodes ∧ g.blocked = f.blocked ∧ ∀ l ∈ g.plan.take n, l = .works := by
  unfold next
  rcases plan : f.plan with _ | ⟨l, ls⟩
  · refine ⟨f, rfl, rfl, rfl, ?_⟩
    simp [plan]
  · rw [plan, List.take_succ_cons] at works
    rw [works l List.mem_cons_self]
    exact ⟨_, rfl, rfl, rfl, fun l' hl => works l' (List.mem_cons_of_mem _ hl)⟩

theorem SameBut.trans {f'' : Folder} (h : f.SameBut name f') (h' : f'.SameBut name f'') : f.SameBut name f'' :=
  fun n other => (h' n other).trans (h n other)

theorem write_sameBut (f : Folder) (name text : String) : f.SameBut name (f.write name text).2 :=
  fun _ other => f.nodes_write text other

theorem rename_error {e : FolderError} (h : f.rename old new = (.error e, f')) : f'.nodes = f.nodes := by
  have same := f.nodes_next
  unfold rename at h
  split at h <;> rename_i g next <;> rw [next] at same
  · cases h
    exact same
  · split at h
    · cases h
      exact same
    · split at h <;> cases h
      exact same

theorem get?_of_write {text : String} (h : f.write name text = (.ok (), f')) :
    f'.nodes.get? name = some (.file text) := by
  unfold write at h
  split at h
  · cases h
  · cases h
  · split at h
    · cases h
    · cases h
      rw [Table.get?_put, if_pos rfl]

theorem get?_of_rename (other : old ≠ new) (h : f.rename old new = (.ok (), f')) :
    f'.nodes.get? old = none ∧ f'.nodes.get? new = f.nodes.get? old := by
  have same := f.nodes_next
  unfold rename at h
  split at h <;> rename_i g next <;> rw [next] at same
  · cases h
  · split at h
    · cases h
    · rename_i node found
      split at h <;> cases h
      rw [Table.get?_put, if_neg other, Table.get?_erase, if_pos rfl, Table.get?_put, if_pos rfl, ← same, found]
      exact ⟨rfl, rfl⟩

theorem read_cases (f : Folder) (name : String) :
    (f.read name).1 = .error .other ∨ (f.nodes.get? name = none ∧ (f.read name).1 = .error .notFound) ∨
      ∃ text, f.nodes.get? name = some (.file text) ∧ (f.read name).1 = .ok text := by
  have same := f.nodes_next
  unfold read
  split <;> rename_i g next <;> rw [next] at same
  · exact .inl rfl
  · split
    · exact .inl rfl
    · rw [← same]
      split <;> rename_i found
      · exact .inr (.inl ⟨found, rfl⟩)
      · exact .inl rfl
      · exact .inl rfl
      · exact .inr (.inr ⟨_, found, rfl⟩)

end

end Folder

namespace FileStore

variable {s s' : FileStore} {f f' : Folder} {chat : ChatId} {op : Operation α} {answer : Except MemoryError α}

/-! ## The course of an operation -/

/-- An operation makes the folder if need be, reads the record and, if it writes, replaces it. It gives up
at the first call that fails. -/
inductive Performs (s : FileStore) (f : Folder) (chat : ChatId) (op : Operation α) :
    Except MemoryError α → FileStore → Folder → Prop
  | refused {e s₁ f₁} (readied : s.ensureReady f = (.error e, s₁, f₁)) : Performs s f chat op (.error e) s₁ f₁
  | unread {e s₁ f₁ f₂} (readied : s.ensureReady f = (.ok (), s₁, f₁)) (loaded : load chat f₁ = (.error e, f₂)) :
      Performs s f chat op (.error e) s₁ f₂
  | seen {r s₁ f₁ f₂} (readied : s.ensureReady f = (.ok (), s₁, f₁)) (loaded : load chat f₁ = (.ok r, f₂))
      (reads : op.writes = false) : Performs s f chat op (.ok (op.apply r).1) s₁ f₂
  | unsaved {r e s₁ f₁ f₂ f₃} (readied : s.ensureReady f = (.ok (), s₁, f₁)) (loaded : load chat f₁ = (.ok r, f₂))
      (writes : op.writes = true) (saved : save chat (op.apply r).2 f₂ = (.error e, f₃)) :
      Performs s f chat op (.error e) s₁ f₃
  | saved {r s₁ f₁ f₂ f₃} (readied : s.ensureReady f = (.ok (), s₁, f₁)) (loaded : load chat f₁ = (.ok r, f₂))
      (writes : op.writes = true) (saved : save chat (op.apply r).2 f₂ = (.ok (), f₃)) :
      Performs s f chat op (.ok (op.apply r).1) s₁ f₃

theorem perform_performs (s : FileStore) (f : Folder) (chat : ChatId) (op : Operation α) :
    Performs s f chat op (s.perform f chat op).1 (s.perform f chat op).2.1 (s.perform f chat op).2.2 := by
  unfold perform
  rcases readied : s.ensureReady f with ⟨e | _, s₁, f₁⟩
  · exact .refused readied
  · dsimp only
    rcases loaded : load chat f₁ with ⟨e | r, f₂⟩
    · exact .unread readied loaded
    · dsimp only
      cases writes : op.writes with
      | false => exact .seen readied loaded writes
      | true =>
        rcases saved : save chat (op.apply r).2 f₂ with ⟨e | _, f₃⟩
        · simp only [if_true]
          exact .unsaved readied loaded writes saved
        · simp only [if_true]
          exact .saved readied loaded writes saved

/-! ### Its calls -/

theorem nodes_of_ready {e : Except MemoryError Unit} (h : s.ensureReady f = (e, s', f')) : f'.nodes = f.nodes := by
  have same := s.nodes_ensureReady f
  rw [h] at same
  exact same

theorem nodes_of_load {e : Except MemoryError ChatRecord} (h : load chat f = (e, f')) : f'.nodes = f.nodes := by
  have same := nodes_load f chat
  rw [h] at same
  exact same

theorem hasRecord_of_load {r : ChatRecord} (h : load chat f = (.ok r, f')) : f.HasRecord chat r := by
  unfold load at h
  have cases := f.read_cases (recordName chat)
  rcases read : f.read (recordName chat) with ⟨e | text, g⟩ <;> rw [read] at h cases
  · rcases cases with failed | ⟨absent, missing⟩ | ⟨text, -, there⟩
    · cases failed
      cases h
    · cases missing
      cases h
      exact .inl ⟨absent, rfl⟩
    · cases there
  · rcases cases with failed | ⟨-, missing⟩ | ⟨text, found, there⟩
    · cases failed
    · cases missing
    · cases there
      dsimp only at h
      split at h
      · rename_i parsed
        cases h
        exact .inr ⟨text, found, parsed⟩
      · cases h

theorem sameBut_of_save {r : ChatRecord} {e : MemoryError} (h : save chat r f = (.error e, f')) :
    f.SameBut (draftName chat) f' := by
  have drafted := f.write_sameBut (draftName chat) r.write
  unfold save at h
  rcases written : f.write (draftName chat) r.write with ⟨_ | _, g⟩ <;> rw [written] at h drafted
  · cases h
    exact drafted
  · dsimp only at h drafted
    rcases renamed : g.rename (draftName chat) (recordName chat) with ⟨_ | _, g'⟩ <;> rw [renamed] at h
    · cases h
      exact drafted.trans (.of_nodes (Folder.rename_error renamed))
    · cases h

theorem get?_of_save {r : ChatRecord} (h : save chat r f = (.ok (), f')) :
    f'.nodes.get? (draftName chat) = none ∧ f'.nodes.get? (recordName chat) = some (.file r.write) := by
  unfold save at h
  rcases written : f.write (draftName chat) r.write with ⟨_ | _, g⟩ <;> rw [written] at h
  · cases h
  · dsimp only at h
    rcases renamed : g.rename (draftName chat) (recordName chat) with ⟨_ | _, g'⟩ <;> rw [renamed] at h
    · cases h
    · cases h
      rw [← Folder.get?_of_write written]
      exact Folder.get?_of_rename (recordName_ne_draftName chat chat).symm renamed

/-! ### Failures to read -/

theorem ready_error {e : MemoryError} (h : s.ensureReady f = (.error e, s', f')) :
    (s = .closed ∧ e = .closed) ∨ ∃ reason, e = .io reason := by
  unfold ensureReady at h
  split at h
  · cases h
  · cases h
    exact .inl ⟨rfl, rfl⟩
  · split at h
    · cases h
    · rename_i failure _ _
      cases h
      cases failure <;> exact .inr ⟨_, rfl⟩

theorem load_error {e : MemoryError} (h : load chat f = (.error e, f')) :
    (∃ reason, e = .io reason) ∨ (f.Corrupt chat ∧ ∃ reason, e = .corrupt chat reason) := by
  unfold load at h
  have cases := f.read_cases (recordName chat)
  rcases read : f.read (recordName chat) with ⟨failure | text, g⟩ <;> rw [read] at h cases
  · cases failure <;> cases h
    exact .inl ⟨_, rfl⟩
  · rcases cases with failed | ⟨-, missing⟩ | ⟨text, found, there⟩
    · cases failed
    · cases missing
    · cases there
      dsimp only at h
      split at h
      · cases h
      · rename_i parsed
        cases h
        exact .inr ⟨⟨text, found, parsed⟩, _, rfl⟩

theorem save_error {r : ChatRecord} {e : MemoryError} (h : save chat r f = (.error e, f')) :
    ∃ reason, e = .io reason := by
  unfold save at h
  split at h
  · rename_i failure _ _
    cases h
    cases failure <;> exact ⟨_, rfl⟩
  · split at h
    · rename_i failure _ _
      cases h
      cases failure <;> exact ⟨_, rfl⟩
    · cases h

def callsToRead : FileStore → Nat
  | uninitialized => 2
  | ready | closed => 1

theorem ready_of_works (isOpen : s ≠ .closed) (free : f.blocked = false)
    (works : ∀ l ∈ f.plan.take s.callsToRead, l = .works) :
    ∃ s₁ f₁, s.ensureReady f = (.ok (), s₁, f₁) ∧ f₁.nodes = f.nodes ∧ f₁.blocked = false ∧
      ∀ l ∈ f₁.plan.take 1, l = .works := by
  cases s with
  | closed => exact absurd rfl isOpen
  | ready => exact ⟨_, _, rfl, rfl, free, works⟩
  | uninitialized =>
    obtain ⟨g, next, nodes, blocked, left⟩ := Folder.next_of_works works
    refine ⟨.ready, { g with present := true }, ?_, nodes, blocked.trans free, left⟩
    unfold ensureReady Folder.create
    simp [next, blocked, free]

theorem load_of_corrupt (corrupt : f.Corrupt chat) (free : f.blocked = false)
    (works : ∀ l ∈ f.plan.take 1, l = .works) : ∃ reason f', load chat f = (.error (.corrupt chat reason), f') := by
  obtain ⟨text, found, bad⟩ := corrupt
  obtain ⟨g, next, nodes, blocked, -⟩ := Folder.next_of_works works
  unfold load Folder.read
  rw [← nodes] at found
  simp [next, blocked, free, found, bad]

theorem load_of_unreadable (unreadable : f.Unreadable chat) (works : ∀ l ∈ f.plan.take 1, l = .works) :
    ∃ reason f', load chat f = (.error (.io reason), f') := by
  obtain ⟨g, next, nodes, -, -⟩ := Folder.next_of_works works
  replace unreadable := unreadable.congr nodes
  have failed : f.read (recordName chat) = (.error .other, g) := by
    unfold Folder.read
    rcases unreadable with ⟨bytes, undecodable, found⟩ | found <;> simp [next, found]
  refine ⟨"the call failed", g, ?_⟩
  unfold load
  rw [failed]
  rfl

theorem perform_of_unread {e : MemoryError} {s₁ : FileStore} {f₁ f₂ : Folder}
    (readied : s.ensureReady f = (.ok (), s₁, f₁)) (loaded : load chat f₁ = (.error e, f₂)) (op : Operation α) :
    (s.perform f chat op).1 = .error e := by
  unfold perform
  simp only [readied, loaded]

/-! ## What is left of the files -/

/-- What an operation with this answer leaves of the files. If it fails then all records are as they were,
and so is everything but the draft of its chat; a record is called corrupt only if it is. It fails on a record
that is corrupt or unreadable, for this very reason if the calls work by which it comes to read it. If it succeeds
it has answered from the record on file; if it is to write then the record that comes of it is on file as a whole,
its draft is gone, and nothing else has changed. -/
structure Careful (s : FileStore) (f : Folder) (chat : ChatId) (op : Operation α) (answer : Except MemoryError α)
    (f' : Folder) : Prop where
  failed : ∀ e, answer = .error e → f.SameBut (draftName chat) f' ∧
    ∀ k, f'.nodes.get? (recordName k) = f.nodes.get? (recordName k)
  reasons : ∀ e, answer = .error e → (s = .closed ∧ e = .closed) ∨ (∃ reason, e = .io reason) ∨
    (f.Corrupt chat ∧ ∃ reason, e = .corrupt chat reason)
  corrupt : f.Corrupt chat → (∃ e, answer = .error e) ∧
    (s ≠ .closed → f.blocked = false → (∀ l ∈ f.plan.take s.callsToRead, l = .works) →
      ∃ reason, answer = .error (.corrupt chat reason))
  unreadable : f.Unreadable chat → (∃ e, answer = .error e) ∧
    (s ≠ .closed → f.blocked = false → (∀ l ∈ f.plan.take s.callsToRead, l = .works) →
      ∃ reason, answer = .error (.io reason))
  reads : op.writes = false → f'.nodes = f.nodes
  succeeded : ∀ a, answer = .ok a → ∃ r, f.HasRecord chat r ∧ a = (op.apply r).1 ∧
    (op.writes = true → f'.nodes.get? (recordName chat) = some (.file (op.apply r).2.write) ∧
      f'.nodes.get? (draftName chat) = none ∧
      ∀ name, name ≠ recordName chat → name ≠ draftName chat → f'.nodes.get? name = f.nodes.get? name)

namespace Performs

variable (h : Performs s f chat op answer s' f')
include h

theorem sameBut {e : MemoryError} (failed : answer = .error e) : f.SameBut (draftName chat) f' := by
  cases h with
  | refused readied => exact .of_nodes (nodes_of_ready readied)
  | unread readied loaded => exact .of_nodes ((nodes_of_load loaded).trans (nodes_of_ready readied))
  | unsaved readied loaded _ saved =>
    have found := (nodes_of_load loaded).trans (nodes_of_ready readied)
    exact Folder.SameBut.trans (.of_nodes found) (sameBut_of_save saved)
  | seen | saved => cases failed

theorem reasons {e : MemoryError} (failed : answer = .error e) :
    (s = .closed ∧ e = .closed) ∨ (∃ reason, e = .io reason) ∨
      (f.Corrupt chat ∧ ∃ reason, e = .corrupt chat reason) := by
  cases h with
  | refused readied =>
    cases failed
    exact (ready_error readied).imp_right .inl
  | unread readied loaded =>
    cases failed
    exact .inr ((load_error loaded).imp_right fun ⟨corrupt, reason⟩ =>
      ⟨corrupt.congr (nodes_of_ready readied).symm, reason⟩)
  | unsaved _ _ _ saved =>
    cases failed
    exact .inr (.inl (save_error saved))
  | seen | saved => cases failed

theorem nodes_eq (reads : op.writes = false) : f'.nodes = f.nodes := by
  cases h with
  | refused readied => exact nodes_of_ready readied
  | unread readied loaded | seen readied loaded _ => exact (nodes_of_load loaded).trans (nodes_of_ready readied)
  | unsaved _ _ writes _ | saved _ _ writes _ =>
    rw [reads] at writes
    cases writes

theorem succeeded {a : α} (ok : answer = .ok a) : ∃ r, f.HasRecord chat r ∧ a = (op.apply r).1 ∧
    (op.writes = true → f'.nodes.get? (recordName chat) = some (.file (op.apply r).2.write) ∧
      f'.nodes.get? (draftName chat) = none) := by
  cases h with
  | refused | unread | unsaved => cases ok
  | @seen r _ _ _ readied loaded reads =>
    cases ok
    refine ⟨r, (hasRecord_of_load loaded).congr (nodes_of_ready readied).symm, rfl, fun writes => ?_⟩
    rw [reads] at writes
    cases writes
  | @saved r _ _ _ _ readied loaded _ saved =>
    cases ok
    obtain ⟨draft, record⟩ := get?_of_save saved
    exact ⟨r, (hasRecord_of_load loaded).congr (nodes_of_ready readied).symm, rfl, fun _ => ⟨record, draft⟩⟩

theorem failed_of_unread (unread : ∀ r, ¬ f.HasRecord chat r) : ∃ e, answer = .error e := by
  rcases answered : answer with e | a
  · exact ⟨e, rfl⟩
  · obtain ⟨r, has, -⟩ := h.succeeded answered
    exact absurd has (unread r)

end Performs

/-- **Failed operations destroy nothing.** Whatever the files of a folder hold and wherever its calls fail. -/
theorem failed_operations_destroy_nothing (s : FileStore) (f : Folder) (chat : ChatId) (op : Operation α) :
    Careful s f chat op (s.perform f chat op).1 (s.perform f chat op).2.2 ∧
      (s.ensureReady f).2.2.nodes = f.nodes := by
  have performs := perform_performs s f chat op
  refine ⟨⟨fun e failed => ?_, fun e => performs.reasons,
    fun corrupt => ⟨performs.failed_of_unread fun _ has => has.not_corrupt corrupt, fun isOpen free works => ?_⟩,
    fun unreadable => ⟨performs.failed_of_unread fun _ has => has.not_unreadable unreadable,
      fun isOpen free works => ?_⟩,
    performs.nodes_eq, fun a ok => ?_⟩, s.nodes_ensureReady f⟩
  · have same := performs.sameBut failed
    exact ⟨same, fun k => same _ (recordName_ne_draftName k chat)⟩
  · obtain ⟨s₁, f₁, readied, nodes, free₁, works₁⟩ := ready_of_works isOpen free works
    obtain ⟨reason, f₂, loaded⟩ := load_of_corrupt (corrupt.congr nodes) free₁ works₁
    exact ⟨reason, perform_of_unread readied loaded op⟩
  · obtain ⟨s₁, f₁, readied, nodes, -, works₁⟩ := ready_of_works isOpen free works
    obtain ⟨reason, f₂, loaded⟩ := load_of_unreadable (unreadable.congr nodes) works₁
    exact ⟨reason, perform_of_unread readied loaded op⟩
  · obtain ⟨r, has, answered, written⟩ := performs.succeeded ok
    refine ⟨r, has, answered, fun writes => ?_⟩
    obtain ⟨record, draft⟩ := written writes
    exact ⟨record, draft, fun name notRecord notDraft => s.nodes_perform f notRecord notDraft op⟩

end FileStore

end Memory

namespace Rehearsal

open Memory

/-- A folder with this in place of the guest's record. -/
def holding (node : Node) : Folder := { present := true, nodes := [(FileStore.recordName guest, node)] }

def garbled : Folder :=
  holding (.binary [0xFF] (by rw [← ByteArray.validateUTF8_eq_true_iff]; decide))

end Rehearsal

namespace Memory

namespace FileStore

open Rehearsal in
/-- What cannot be read is no record, and still it is not called corrupt. -/
theorem unreadable_record_not_called_corrupt :
    (∀ r, ¬ garbled.HasRecord guest r) ∧
      (FileStore.ready.perform garbled guest (.append (.user "Hi"))).1 = .error (.io "the call failed") ∧
      (∀ r, ¬ (holding .folder).HasRecord guest r) ∧
      (FileStore.ready.perform (holding .folder) guest (.append (.user "Hi"))).1 = .error (.io "the call failed") := by
  have found (node : Node) : (holding node).nodes.get? (recordName guest) = some node := if_pos rfl
  refine ⟨fun r has => has.not_unreadable (.inl ⟨_, _, found _⟩), rfl,
    fun r has => has.not_unreadable (.inr (found _)), rfl⟩

/-! ## Any number of operations -/

structure Account where
  store : FileStore
  folder : Folder
  records : ChatId → ChatRecord

namespace Account

def step (x : Account) : Event → Account
  | .perform chat op =>
    match x.store.perform x.folder chat op with
    | (.ok _, s, f) => ⟨s, f, Function.update x.records chat (op.apply (x.records chat)).2⟩
    | (.error _, s, f) => ⟨s, f, x.records⟩
  | .close _ => { x with store := .closed }
  | .reopen => { x with store := .uninitialized }

/-- Every record that is written on the way can be read back. -/
def Legible (x : Account) : List Event → Prop
  | [] => True
  | e :: es =>
    (∀ {α : Type} chat (op : Operation α), e = .perform chat op → op.writes = true →
      (op.apply (x.records chat)).2.ReadsBack) ∧ (x.step e).Legible es

def Balanced (x : Account) : Prop := ∀ chat, x.folder.HasRecord chat (x.records chat)

variable {x : Account} {e : Event} {es : List Event}

theorem Balanced.answered {a : α} (h : x.Balanced) (ok : (x.store.perform x.folder chat op).1 = .ok a) :
    a = (op.apply (x.records chat)).1 := by
  obtain ⟨r, has, answered, -⟩ := (perform_performs x.store x.folder chat op).succeeded ok
  rw [answered, has.unique (h chat)]

theorem Balanced.step (h : x.Balanced) (legible : x.Legible (e :: es)) : (x.step e).Balanced := by
  cases e with
  | close _ | reopen => exact h
  | perform chat op =>
    have performs := perform_performs x.store x.folder chat op
    have others (k : ChatId) (other : k ≠ chat) :
        (x.store.perform x.folder chat op).2.2.HasRecord k (x.records k) :=
      (h k).congr_record (x.store.nodes_perform x.folder (fun same => other (recordName_injective same))
        (recordName_ne_draftName k chat) op)
    unfold Account.step
    dsimp only
    rcases ran : x.store.perform x.folder chat op with ⟨e | a, s, f⟩ <;> rw [ran] at performs others
    · exact fun k => (h k).congr_record (performs.sameBut rfl _ (recordName_ne_draftName k chat))
    · intro k
      by_cases same : k = chat
      · subst same
        dsimp only
        rw [Function.update_self]
        cases writes : op.writes with
        | false =>
          rw [Operation.apply_of_not_writes writes]
          exact (h k).congr (performs.nodes_eq writes)
        | true =>
          obtain ⟨r, has, -, written⟩ := performs.succeeded rfl
          rw [← has.unique (h k)]
          refine .inr ⟨_, (written writes).1, ?_⟩
          rw [has.unique (h k)]
          exact legible.1 k op rfl writes
      · dsimp only
        rw [Function.update_of_ne same]
        exact others k same

/-- **Failures are passed over.** Whatever calls fail on the way, what is on file in the end is what has come
of the operations that succeeded, and all that is answered is read off it. -/
theorem balanced_of_course (h : x.Balanced) (legible : x.Legible es) : (es.foldl step x).Balanced := by
  induction es generalizing x with
  | nil => exact h
  | cons e es ih => exact ih (h.step legible) legible.2

end Account

end FileStore

end Concierge.Memory
