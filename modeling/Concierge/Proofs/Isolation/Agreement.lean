import Concierge.Proofs.Isolation.Names

/-!
# Stores that agree on some chats

Two stores agree on chats that go by each other's names if they have the same of them and are both open or
both closed. An operation on such a chat then answers alike on both sides, and the stores still agree on all
of these chats (`InMemory.alike_perform`, `FileStore.alike_perform`). Stores in files need not have made
their folder on both sides, as long as making it will succeed.
-/

namespace Concierge.Memory

variable {α : Type} {n : Naming}

/-! ## In memory -/

structure InMemory.Alike (n : Naming) (s s' : InMemory) : Prop where
  closed : s.closed = s'.closed
  records : ∀ {k k'}, n k k' → s.record k = s'.record k'

theorem InMemory.alike_perform (one : Relator.BiUnique n) {s s' : InMemory} (h : s.Alike n s') {k k' : ChatId}
    (hk : n k k') (op : Operation α) :
    (s.perform k op).1 = (s'.perform k' op).1 ∧ (s.perform k op).2.Alike n (s'.perform k' op).2 := by
  have same := h.records hk
  by_cases closed : s.closed = true
  · have closed' : s'.closed = true := h.closed ▸ closed
    unfold perform
    rw [if_pos closed, if_pos closed']
    exact ⟨rfl, h⟩
  · have isOpen : s.closed = false := by simpa using closed
    have isOpen' : s'.closed = false := h.closed ▸ isOpen
    refine ⟨?_, ?_, ?_⟩
    · unfold perform
      simp [isOpen, isOpen', same]
    · rw [closed_perform, closed_perform]
      exact h.closed
    · intro j j' hj
      rw [record_perform _ _ _ isOpen, record_perform _ _ _ isOpen', same, h.records hj]
      simp only [eq_iff_of_biUnique one hj hk]

/-! ## Folders -/

namespace Folder

/-- Folders that agree on files that go by each other's names, and on how their calls go. -/
structure Alike (files : String → String → Prop) (f f' : Folder) : Prop where
  blocked : f.blocked = f'.blocked
  plan : f.plan = f'.plan
  nodes : ∀ {x x'}, files x x' → f.nodes.get? x = f'.nodes.get? x'

structure Even (files : String → String → Prop) (f f' : Folder) : Prop extends Alike files f f' where
  present : f.present = f'.present

/-- The second folder comes of calls on the first one. -/
structure After (f g : Folder) : Prop where
  blocked : g.blocked = f.blocked
  plan : f.plan = [] → g.plan = []
  present : f.present = true → g.present = true

theorem After.trans {f g h : Folder} (first : f.After g) (second : g.After h) : f.After h where
  blocked := second.blocked.trans first.blocked
  plan := second.plan ∘ first.plan
  present := second.present ∘ first.present

section
variable {files : String → String → Prop} {f f' : Folder} {x x' y y' : String}

theorem after_next (f : Folder) : f.After f.next.2 := by
  unfold next
  split
  · exact ⟨rfl, id, id⟩
  · rename_i l ls plan
    refine ⟨rfl, fun none => ?_, id⟩
    rw [plan] at none
    cases none

theorem present_next (f : Folder) : f.next.2.present = f.present := by
  unfold next
  split <;> rfl

theorem alike_next (h : f.Alike files f') : f.next.1 = f'.next.1 ∧ f.next.2.Alike files f'.next.2 := by
  unfold next
  rw [← h.plan]
  cases plan : f.plan with
  | nil => exact ⟨rfl, h⟩
  | cons l ls => exact ⟨rfl, h.blocked, rfl, h.nodes⟩

theorem even_next (h : f.Even files f') : f.next.1 = f'.next.1 ∧ f.next.2.Even files f'.next.2 := by
  obtain ⟨luck, alike⟩ := alike_next h.toAlike
  refine ⟨luck, alike, ?_⟩
  rw [present_next, present_next]
  exact h.present

theorem even_of_next (h : f.Even files f') :
    ∃ luck g g', f.next = (luck, g) ∧ f'.next = (luck, g') ∧ g.Even files g' := by
  obtain ⟨luck, even⟩ := even_next h
  exact ⟨f.next.1, f.next.2, f'.next.2, rfl, by rw [luck], even⟩

theorem Even.put (one : Relator.BiUnique files) (h : f.Even files f') (hx : files x x') (node : Node) :
    { f with nodes := f.nodes.put x node }.Even files { f' with nodes := f'.nodes.put x' node } := by
  refine ⟨⟨h.blocked, h.plan, fun hy => ?_⟩, h.present⟩
  rw [Table.get?_put, Table.get?_put, h.nodes hy]
  simp only [eq_iff_of_biUnique one hy hx]

theorem Even.erase (one : Relator.BiUnique files) (h : f.Even files f') (hx : files x x') :
    { f with nodes := f.nodes.erase x }.Even files { f' with nodes := f'.nodes.erase x' } := by
  refine ⟨⟨h.blocked, h.plan, fun hy => ?_⟩, h.present⟩
  rw [Table.get?_erase, Table.get?_erase, h.nodes hy]
  simp only [eq_iff_of_biUnique one hy hx]

theorem after_create (f : Folder) : f.After f.create.2 := by
  have next := f.after_next
  unfold create
  split <;> rename_i g h <;> rw [h] at next
  · exact next
  · split
    · exact next
    · exact ⟨next.blocked, next.plan, fun _ => rfl⟩

theorem alike_create (h : f.Alike files f') : f.create.1 = f'.create.1 ∧ f.create.2.Alike files f'.create.2 ∧
    (f.create.1 = .ok () ∨ f.present = f'.present → f.create.2.present = f'.create.2.present) := by
  obtain ⟨luck, alike⟩ := alike_next h
  have same := present_next f
  have same' := present_next f'
  unfold create
  generalize f.next = x at luck alike same
  generalize f'.next = y at luck alike same'
  obtain ⟨luck₁, g⟩ := x
  obtain ⟨luck₂, g'⟩ := y
  dsimp only at luck alike same same'
  subst luck
  have unmade (e : FolderError) : (Except.error e : Except FolderError Unit) = .ok () ∨ f.present = f'.present →
      g.present = g'.present := by
    intro either
    rw [same, same']
    exact either.resolve_left nofun
  cases luck₁ with
  | fails leaves => exact ⟨rfl, alike, unmade _⟩
  | works =>
    dsimp only
    by_cases blocked : g.blocked = true
    · rw [if_pos blocked, if_pos (alike.blocked ▸ blocked)]
      exact ⟨rfl, alike, unmade _⟩
    · rw [if_neg blocked, if_neg (alike.blocked ▸ blocked)]
      exact ⟨rfl, ⟨alike.blocked, alike.plan, alike.nodes⟩, fun _ => rfl⟩

theorem after_read (f : Folder) (x : String) : f.After (f.read x).2 := by
  have next := f.after_next
  unfold read
  split <;> rename_i g h <;> rw [h] at next
  · exact next
  · split
    · exact next
    · split <;> exact next

theorem even_read (h : f.Even files f') (hx : files x x') :
    (f.read x).1 = (f'.read x').1 ∧ (f.read x).2.Even files (f'.read x').2 := by
  obtain ⟨luck, g, g', hf, hf', even⟩ := even_of_next h
  unfold read
  rw [hf, hf']
  cases luck with
  | fails leaves => exact ⟨rfl, even⟩
  | works =>
    dsimp only
    rw [← even.blocked, ← even.nodes hx]
    split
    · exact ⟨rfl, even⟩
    · cases g.nodes.get? x with
      | none => exact ⟨rfl, even⟩
      | some node => cases node <;> exact ⟨rfl, even⟩

theorem after_write (f : Folder) (x text : String) : f.After (f.write x text).2 := by
  have next := f.after_next
  unfold write
  split <;> rename_i g h <;> rw [h] at next
  · exact ⟨next.blocked, next.plan, next.present⟩
  · exact ⟨next.blocked, next.plan, next.present⟩
  · split
    · exact next
    · exact ⟨next.blocked, next.plan, next.present⟩

theorem even_write (one : Relator.BiUnique files) (h : f.Even files f') (hx : files x x') (text : String) :
    (f.write x text).1 = (f'.write x' text).1 ∧ (f.write x text).2.Even files (f'.write x' text).2 := by
  obtain ⟨luck, g, g', hf, hf', even⟩ := even_of_next h
  unfold write
  rw [hf, hf']
  cases luck with
  | fails leaves =>
    cases leaves with
    | none => exact ⟨rfl, even.erase one hx⟩
    | some node => exact ⟨rfl, even.put one hx node⟩
  | works =>
    dsimp only
    have same : (g.blocked = true ∨ (!g.present) = true ∨ g.nodes.get? x = some .folder) ↔
        (g'.blocked = true ∨ (!g'.present) = true ∨ g'.nodes.get? x' = some .folder) := by
      rw [even.blocked, even.nodes hx, even.present]
    by_cases refused : g.blocked = true ∨ (!g.present) = true ∨ g.nodes.get? x = some .folder
    · rw [if_pos refused, if_pos (same.mp refused)]
      exact ⟨rfl, even⟩
    · rw [if_neg refused, if_neg fun refused' => refused (same.mpr refused')]
      exact ⟨rfl, even.put one hx _⟩

theorem after_rename (f : Folder) (x y : String) : f.After (f.rename x y).2 := by
  have next := f.after_next
  unfold rename
  split <;> rename_i g h <;> rw [h] at next
  · exact next
  · split
    · exact next
    · split
      · exact next
      · exact ⟨next.blocked, next.plan, next.present⟩

theorem even_rename (one : Relator.BiUnique files) (h : f.Even files f') (hx : files x x') (hy : files y y') :
    (f.rename x y).1 = (f'.rename x' y').1 ∧ (f.rename x y).2.Even files (f'.rename x' y').2 := by
  obtain ⟨luck, g, g', hf, hf', even⟩ := even_of_next h
  unfold rename
  rw [hf, hf']
  cases luck with
  | fails leaves => exact ⟨rfl, even⟩
  | works =>
    dsimp only
    rw [← even.nodes hx, ← even.nodes hy]
    rcases g.nodes.get? x with _ | node
    · exact ⟨rfl, even⟩
    · dsimp only
      split
      · exact ⟨rfl, even⟩
      · exact ⟨rfl, (even.erase one hx).put one hy node⟩

end

end Folder

/-! ## In files -/

namespace FileStore

inductive Files (n : Naming) : String → String → Prop
  | record {k k'} (h : n k k') : Files n (recordName k) (recordName k')
  | draft {k k'} (h : n k k') : Files n (draftName k) (draftName k')

theorem biUnique_files (one : Relator.BiUnique n) : Relator.BiUnique (Files n) := by
  constructor
  · intro x y z hx hy
    cases hx with
    | record h =>
      generalize same : recordName _ = z at hy
      cases hy with
      | record h' => rw [one.1 h (recordName_injective same ▸ h')]
      | draft h' => exact absurd same (recordName_ne_draftName _ _)
    | draft h =>
      generalize same : draftName _ = z at hy
      cases hy with
      | record h' => exact absurd same.symm (recordName_ne_draftName _ _)
      | draft h' => rw [one.1 h (draftName_injective same ▸ h')]
  · intro x y z hy hz
    cases hy with
    | record h =>
      generalize same : recordName _ = x at hz
      cases hz with
      | record h' => rw [one.2 h (recordName_injective same ▸ h')]
      | draft h' => exact absurd same (recordName_ne_draftName _ _)
    | draft h =>
      generalize same : draftName _ = x at hz
      cases hz with
      | record h' => exact absurd same.symm (recordName_ne_draftName _ _)
      | draft h' => rw [one.2 h (draftName_injective same ▸ h')]

/-- Stores that go on alike in these folders: closed ones, new ones, those that are equally far with folders
that are, and open ones that have their folders or can make them. -/
inductive Alike (f f' : Folder) : FileStore → FileStore → Prop
  | closed : Alike f f' .closed .closed
  | new : Alike f f' .uninitialized .uninitialized
  | even {s} (present : f.present = f'.present) : Alike f f' s s
  | works {s s'} (plan : f.plan = []) (free : f.blocked = false) (isOpen : s ≠ .closed) (isOpen' : s' ≠ .closed)
      (made : s = .ready → f.present = true) (made' : s' = .ready → f'.present = true) : Alike f f' s s'

theorem Alike.later {f f' g g' : Folder} {s s' : FileStore} (h : Alike f f' s s') (after : f.After g)
    (after' : f'.After g') (even : f.present = f'.present → g.present = g'.present) : Alike g g' s s' := by
  cases h with
  | closed => exact .closed
  | new => exact .new
  | even present => exact .even (even present)
  | works plan free isOpen isOpen' made made' =>
    refine .works (after.plan plan) ?_ isOpen isOpen' (after.present ∘ made) (after'.present ∘ made')
    rw [after.blocked]
    exact free

/-- Both stores are ready, with folders that are both there, or both fail; closed ones leave their folders
as they were. -/
inductive Readied (n : Naming) (f f' : Folder) : Except MemoryError Unit × FileStore × Folder →
    Except MemoryError Unit × FileStore × Folder → Prop
  | closed (alike : f.Alike (Files n) f') : Readied n f f' (.error .closed, .closed, f) (.error .closed, .closed, f')
  | failed (e : MemoryError) {g g'} (alike : g.Alike (Files n) g')
      (present : f.present = f'.present → g.present = g'.present) :
      Readied n f f' (.error e, .uninitialized, g) (.error e, .uninitialized, g')
  | ready {g g'} (even : g.Even (Files n) g') : Readied n f f' (.ok (), .ready, g) (.ok (), .ready, g')

section
variable (one : Relator.BiUnique n) {f f' : Folder} {s s' : FileStore} {k k' : ChatId}

theorem after_ensureReady (s : FileStore) (f : Folder) : f.After (s.ensureReady f).2.2 := by
  have made := f.after_create
  unfold ensureReady
  split
  · exact ⟨rfl, id, id⟩
  · exact ⟨rfl, id, id⟩
  · split <;> rename_i h <;> rw [h] at made <;> exact made

theorem after_load (f : Folder) (k : ChatId) : f.After (load k f).2 := by
  have read := f.after_read (recordName k)
  unfold load
  split
  · rename_i h
    rw [h] at read
    split <;> exact read
  · rename_i h
    rw [h] at read
    exact read
  · rename_i h
    rw [h] at read
    exact read

theorem after_save (f : Folder) (k : ChatId) (r : ChatRecord) : f.After (save k r f).2 := by
  have written := f.after_write (draftName k) r.write
  unfold save
  split
  · rename_i h
    rw [h] at written
    exact written
  · rename_i g h
    rw [h] at written
    have renamed := g.after_rename (draftName k) (recordName k)
    split
    · rename_i h
      rw [h] at renamed
      exact written.trans renamed
    · rename_i h
      rw [h] at renamed
      exact written.trans renamed

theorem after_perform (s : FileStore) (f : Folder) (k : ChatId) (op : Operation α) :
    f.After (s.perform f k op).2.2 := by
  have readied := s.after_ensureReady f
  unfold perform
  split
  · rename_i h
    rw [h] at readied
    exact readied
  · rename_i s₁ f₁ h
    rw [h] at readied
    have loaded := after_load f₁ k
    split
    · rename_i h
      rw [h] at loaded
      exact readied.trans loaded
    · rename_i r f₂ h
      rw [h] at loaded
      have saved := after_save f₂ k (op.apply r).2
      dsimp only
      split
      · split
        · rename_i h
          rw [h] at saved
          exact (readied.trans loaded).trans saved
        · rename_i h
          rw [h] at saved
          exact (readied.trans loaded).trans saved
      · exact readied.trans loaded

theorem alike_ensureReady (hf : f.Alike (Files n) f') (hs : Alike f f' s s') :
    Readied n f f' (s.ensureReady f) (s'.ensureReady f') := by
  have new : Readied n f f' (ensureReady .uninitialized f) (ensureReady .uninitialized f') := by
    obtain ⟨same, after, present⟩ := Folder.alike_create hf
    unfold ensureReady
    generalize f.create = x at same after present
    generalize f'.create = y at same after present
    obtain ⟨answer, g⟩ := x
    obtain ⟨answer', g'⟩ := y
    dsimp only at same after present
    subst same
    cases answer with
    | ok _ => exact .ready ⟨after, present (Or.inl rfl)⟩
    | error e => exact .failed _ after fun both => present (Or.inr both)
  cases hs with
  | closed => exact .closed hf
  | new => exact new
  | @even s present =>
    cases s with
    | ready => exact .ready ⟨hf, present⟩
    | closed => exact .closed hf
    | uninitialized => exact new
  | works plan free isOpen isOpen' made made' =>
    have created (s : FileStore) (g : Folder) (plan : g.plan = []) (free : g.blocked = false) (isOpen : s ≠ .closed)
        (made : s = .ready → g.present = true) : s.ensureReady g = (.ok (), .ready, { g with present := true }) := by
      cases s with
      | closed => exact absurd rfl isOpen
      | ready =>
        have present := made rfl
        unfold ensureReady
        cases g
        dsimp only at present
        rw [present]
      | uninitialized => simp [ensureReady, Folder.create, Folder.next, plan, free]
    have plan' : f'.plan = [] := hf.plan ▸ plan
    have free' : f'.blocked = false := hf.blocked ▸ free
    rw [created s f plan free isOpen made, created s' f' plan' free' isOpen' made']
    exact .ready ⟨⟨hf.blocked, hf.plan, hf.nodes⟩, rfl⟩

theorem even_load (hk : n k k') (h : f.Even (Files n) f') :
    n.Texts.Answers (load k f).1 (load k' f').1 ∧ (load k f).2.Even (Files n) (load k' f').2 := by
  obtain ⟨same, after⟩ := Folder.even_read h (Files.record hk)
  unfold load
  generalize f.read (recordName k) = x at same after
  generalize f'.read (recordName k') = y at same after
  obtain ⟨answer, g⟩ := x
  obtain ⟨answer', g'⟩ := y
  dsimp only at same after
  subst same
  cases answer with
  | error e => cases e <;> exact ⟨by first | exact .ok _ | exact .error (.same _), after⟩
  | ok text =>
    dsimp only
    cases ChatRecord.read? text with
    | some r => exact ⟨.ok r, after⟩
    | none =>
      refine ⟨.error ?_, after⟩
      exact .append (.append (.append (.same _) (.name hk)) (.same _)) (.same _)

include one in
theorem even_save (hk : n k k') (h : f.Even (Files n) f') (r : ChatRecord) :
    (save k r f).1 = (save k' r f').1 ∧ (save k r f).2.Even (Files n) (save k' r f').2 := by
  have files := biUnique_files one
  obtain ⟨same, after⟩ := Folder.even_write files h (Files.draft hk) r.write
  unfold save
  generalize f.write (draftName k) r.write = x at same after
  generalize f'.write (draftName k') r.write = y at same after
  obtain ⟨answer, g⟩ := x
  obtain ⟨answer', g'⟩ := y
  dsimp only at same after
  subst same
  cases answer with
  | error e => exact ⟨rfl, after⟩
  | ok _ =>
    dsimp only
    obtain ⟨same, after⟩ := Folder.even_rename files after (Files.draft hk) (Files.record hk)
    generalize g.rename (draftName k) (recordName k) = x at same after
    generalize g'.rename (draftName k') (recordName k') = y at same after
    obtain ⟨answer, h⟩ := x
    obtain ⟨answer', h'⟩ := y
    dsimp only at same after
    subst same
    cases answer <;> exact ⟨rfl, after⟩

include one in
/-- An operation answers alike, and both stores go on alike in folders that agree. Stores beside them do so
too, since the folders are both there then, or as they were. -/
theorem alike_perform (hk : n k k') (hf : f.Alike (Files n) f') (hs : Alike f f' s s') (op : Operation α) :
    n.Texts.Answers (s.perform f k op).1 (s'.perform f' k' op).1 ∧
      (s.perform f k op).2.2.Alike (Files n) (s'.perform f' k' op).2.2 ∧
      Alike (s.perform f k op).2.2 (s'.perform f' k' op).2.2 (s.perform f k op).2.1 (s'.perform f' k' op).2.1 ∧
      (f.present = f'.present → (s.perform f k op).2.2.present = (s'.perform f' k' op).2.2.present) := by
  have readied := alike_ensureReady hf hs
  unfold perform
  generalize s.ensureReady f = x at readied
  generalize s'.ensureReady f' = y at readied
  cases readied with
  | closed alike => exact ⟨.error (.same _), alike, .closed, id⟩
  | failed e alike present => exact ⟨.error (.same _), alike, .new, present⟩
  | @ready g g' even =>
    dsimp only
    obtain ⟨same, after⟩ := even_load hk even
    generalize load k g = x at same after
    generalize load k' g' = y at same after
    obtain ⟨answer, h⟩ := x
    obtain ⟨answer', h'⟩ := y
    dsimp only at same after
    cases same with
    | error texts => exact ⟨.error texts, after.toAlike, .even after.present, fun _ => after.present⟩
    | ok r =>
      dsimp only
      by_cases writes : op.writes = true
      · rw [if_pos writes, if_pos writes]
        obtain ⟨same, saved⟩ := even_save one hk after (op.apply r).2
        generalize save k (op.apply r).2 h = x at same saved
        generalize save k' (op.apply r).2 h' = y at same saved
        obtain ⟨answer, i⟩ := x
        obtain ⟨answer', i'⟩ := y
        dsimp only at same saved
        subst same
        cases answer with
        | error e => exact ⟨.error (.same _), saved.toAlike, .even saved.present, fun _ => saved.present⟩
        | ok _ => exact ⟨.ok _, saved.toAlike, .even saved.present, fun _ => saved.present⟩
      · rw [if_neg writes, if_neg writes]
        exact ⟨.ok _, after.toAlike, .even after.present, fun _ => after.present⟩

end

end FileStore

end Concierge.Memory
