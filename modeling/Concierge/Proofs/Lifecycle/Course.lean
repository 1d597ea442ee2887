import Concierge.Proofs.Lifecycle.Books

/-!
# Stores are closed with their sessions

A reception takes its `Course` when messages are received, sessions end one by one or all at once and the
registry is configured, in whatever order. What sessions open for themselves may be planned anew for each of them.
Sessions with stores of their own have them open as long as they last, and closed from then on; stores that are
shared are closed when all sessions are ended, and only then.
-/

namespace Concierge

open Run Memory

variable {σ β : Type}

namespace Reception

def noted (b : Books) (id : String) (r r' : Reception) : Books :=
  match r.session? id, r'.session? id with
  | none, some h => b.give (id, h.memory)
  | _, _ => b

/-- **The courses of a reception**, with its books. Sessions open stores by any of these plans. What happens elsewhere
closes no store and opens none that was closed. -/
inductive Course (out : Outside σ) (calls : σ → List Nat) (plans : StorePlan → Prop) (r₀ : Reception) (w₀ : World σ) :
    Reception → World σ → Books → Prop
  | opened (planned : ∀ plan, r₀.memory = .perSession plan → plans plan) : Course out calls plans r₀ w₀ r₀ w₀ {}
  | message {r w b deadline id text reply r' w'} (before : Course out calls plans r₀ w₀ r w b)
      (done : r.process out id text deadline w = (some (reply, r'), w')) :
      Course out calls plans r₀ w₀ r' w' (noted b id r r')
  | ended {r w b deadline id ended r' w'} (before : Course out calls plans r₀ w₀ r w b)
      (done : r.endSession out id deadline w = (some (ended, r'), w')) :
      Course out calls plans r₀ w₀ r' w' ((r.session? id).elim b fun h => b.take (id, h.memory))
  | shutdown {r w b deadline r' w'} (before : Course out calls plans r₀ w₀ r w b)
      (done : r.shutdown out deadline w = (some r', w')) : Course out calls plans r₀ w₀ r' w' (b.takeAll r.entries)
  | configured {r w b} (before : Course out calls plans r₀ w₀ r w b) (ds : List Specialist) :
      Course out calls plans r₀ w₀ r { w with registry := w.registry.configure ds } b
  | equipped {r w b} (before : Course out calls plans r₀ w₀ r w b) (role : String) (tools : Toolbox) :
      Course out calls plans r₀ w₀ r { w with registry := w.registry.setTools role tools } b
  | replanned {r w b} {plan : StorePlan} (before : Course out calls plans r₀ w₀ r w b) (planned : plans plan) :
      Course out calls plans r₀ w₀ (r.replan plan) w b
  | elsewhere {r w b w'} (before : Course out calls plans r₀ w₀ r w b) (steady : w.Steady w')
      (doors : w.Doors calls w') : Course out calls plans r₀ w₀ r w' b

/-- The books of a reception: they square with the stores, and the memory that has not come back is that of
the sessions that there are. -/
structure Accounted (calls : σ → List Nat) (plans : StorePlan → Prop) (mode : MemoryMode) (w₀ : World σ)
    (r : Reception) (w : World σ) (b : Books) : Prop where
  same : r.memory = mode
  once : r.table.keys.Nodup
  alike : ∀ {id h}, r.session? id = some h → h.Alike
  outstanding : b.given.Perm (b.back ++ r.entries)
  square : b.Square calls plans mode w₀ w

section
variable {out : Outside σ} {calls : σ → List Nat} {plans : StorePlan → Prop} {mode : MemoryMode} {r₀ r r' r₁ : Reception}
  {w₀ w w' w₁ : World σ} {b : Books} {id : String} {x x' : Held} {deadline : Option Nat}

theorem mem_entries (has : r.session? id = some x) : (id, x.memory) ∈ r.entries := by
  rw [session?_eq] at has
  exact List.mem_map_of_mem (Table.mem_of_get? has)

namespace Accounted

theorem doors (h : r.Accounted calls plans mode w₀ w b) (doors : w.Doors calls w') : r.Accounted calls plans mode w₀ w' b :=
  ⟨h.same, h.once, h.alike, h.outstanding, h.square.doors doors⟩

theorem alike_put (h : r.Accounted calls plans mode w₀ w b) (table : r'.table = r.table.put id x') (alike : x'.Alike)
    {j : String} {y : Held} (has : r'.session? j = some y) : y.Alike := by
  rw [session?_eq, table, Table.get?_put] at has
  split at has
  · cases has
    exact alike
  · rw [← session?_eq] at has
    exact h.alike has

theorem goes_on (h : r.Accounted calls plans mode w₀ w b) (has : r.session? id = some x) (kept : r'.memory = r.memory)
    (table : r'.table = r.table.put id x') (memory : x'.memory = x.memory) (alike : x'.Alike) :
    r'.Accounted calls plans mode w₀ w b := by
  have entries : r'.entries = r.entries := by
    unfold entries
    rw [table, Table.mapEntries_put, memory]
    refine Table.put_of_get?_eq_some ?_
    rw [Table.get?_mapEntries, ← session?_eq, has]
    rfl
  constructor
  case same => rw [kept, h.same]
  case once =>
    rw [table]
    exact Table.nodup_put h.once id x'
  case alike => exact h.alike_put table alike
  case outstanding =>
    rw [entries]
    exact h.outstanding
  case square => exact h.square

theorem begins (logs : out.LogsCloses calls) (h : r.Accounted calls plans mode w₀ w b) (absent : r.session? id = none)
    (begins : Begins out id r w x r₁ w₁) : r₁.Accounted calls plans mode w₀ w₁ (b.give (id, x.memory)) := by
  have none : r.table.get? id = none := by rw [← session?_eq, absent]
  have entries : r₁.entries = r.entries ++ [(id, x.memory)] := by
    unfold entries
    rw [begins.table, Table.put_of_get?_eq_none none]
    exact List.map_append
  constructor
  case same => rw [begins.mode, h.same]
  case once =>
    rw [begins.table]
    exact Table.nodup_put h.once id x
  case alike => exact h.alike_put begins.table begins.alike
  case outstanding =>
    rw [entries, ← List.append_assoc]
    exact h.outstanding.append_right _
  case square =>
    have given := h.square.give id
    rw [← h.same, ← begins.memory] at given
    have drew := begins.drawn
    rw [← h.same]
    split at drew
    · rw [drew.2]
      refine given.doors (World.doors_of_stores rfl ?_)
      have moved := logs.moves (.drawChatId : out.Moves w.outside _)
      rw [r.memory.outside_supply]
      exact moved
    · rw [drew.2]
      exact given

theorem ended (logs : out.LogsCloses calls) (h : r.Accounted calls plans mode w₀ w b) (has : r.session? id = some x)
    (kept : r'.memory = r.memory) (table : r'.table = r.table.erase id) :
    r'.Accounted calls plans mode w₀ (World.closeEach out (mode.ofSession x.memory) w) (b.take (id, x.memory)) := by
  have mem : (id, x.memory) ∈ b.given := by
    refine h.outstanding.mem_iff.mpr (List.mem_append_right _ (mem_entries has))
  have entries : r.entries.Perm ((id, x.memory) :: r'.entries) := by
    rw [session?_eq] at has
    unfold entries
    rw [table]
    exact (Table.perm_erase h.once has).map _
  constructor
  case same => rw [kept, h.same]
  case once =>
    rw [table]
    exact Table.nodup_erase h.once id
  case alike =>
    intro j y hy
    rw [session?_eq, table, Table.get?_erase] at hy
    split at hy
    · cases hy
    · rw [← session?_eq] at hy
      exact h.alike hy
  case outstanding =>
    have moved : (b.back ++ r.entries).Perm ((b.back ++ [(id, x.memory)]) ++ r'.entries) := by
      rw [List.append_assoc]
      exact entries.append_left _
    exact h.outstanding.trans moved
  case square =>
    refine h.square.close logs rfl (fun e he => ?_) Books.closed_take fun store hs => ?_
    · rcases List.mem_append.mp he with old | new
      · exact h.square.back e old
      · rw [List.mem_singleton.mp new]
        exact mem
    · cases mode with
      | none | shared => cases hs
      | perSession plan => exact List.mem_flatMap.mpr ⟨_, mem, hs⟩

theorem shutdown (logs : out.LogsCloses calls) (h : r.Accounted calls plans mode w₀ w b) (kept : r'.memory = r.memory)
    (table : r'.table = []) :
    r'.Accounted calls plans mode w₀ (World.closeEach out (mode.ofAll (r.entries.map (·.2))) w) (b.takeAll r.entries) := by
  have mem {e : String × Adapters} (he : e ∈ b.back ++ r.entries) : e ∈ b.given := h.outstanding.mem_iff.mpr he
  constructor
  case same => rw [kept, h.same]
  case once =>
    rw [table]
    exact .nil
  case alike =>
    intro j y hy
    rw [session?_eq, table] at hy
    cases hy
  case outstanding =>
    unfold entries
    rw [table]
    rw [show Table.mapEntries Held.memory ([] : Table String Held) = [] from rfl, List.append_nil]
    exact h.outstanding
  case square =>
    refine h.square.close logs rfl (fun e => mem) Books.closed_takeAll fun store hs => ?_
    cases mode with
    | none => cases hs
    | shared memory => exact hs
    | perSession plan =>
      obtain ⟨memory, listed, inside⟩ := List.mem_flatMap.mp hs
      obtain ⟨e, he, rfl⟩ := List.mem_map.mp listed
      exact List.mem_flatMap.mpr ⟨e, mem (List.mem_append_right _ he), inside⟩

theorem replan {plan : StorePlan} (h : r.Accounted calls plans mode w₀ w b) (planned : plans plan) :
    (r.replan plan).Accounted calls plans (mode.replan plan) w₀ w b := by
  have table : (r.replan plan).table = r.table := by cases r <;> rfl
  constructor
  case same => rw [memory_replan, h.same]
  case once =>
    rw [table]
    exact h.once
  case alike =>
    intro id x has
    rw [session?_replan] at has
    exact h.alike has
  case outstanding =>
    unfold entries
    rw [table]
    exact h.outstanding
  case square => exact h.square.replan planned

end Accounted

theorem Course.inCourse (vacant : r₀.Vacant) (h : Course out calls plans r₀ w₀ r w b) : r.InCourse out w := by
  induction h with
  | opened _ => exact .opened vacant _
  | message _ done ih => exact ih.message done
  | ended _ done ih => exact ih.ended done
  | shutdown _ done ih => exact ih.shutdown done
  | configured _ ds ih => exact ih.configured ds
  | equipped _ role tools ih => exact ih.equipped role tools
  | @replanned _ _ _ plan _ _ ih => exact ih.replanned plan
  | elsewhere _ steady _ ih => exact ih.elsewhere steady

theorem doors_process (logs : out.LogsCloses calls) (r : Reception) (id text : String) (deadline : Option Nat)
    (w : World σ) : w.Doors calls (r.process out id text deadline w).2 :=
  along_process (World.doors_deskDrift logs) r id text deadline w

theorem Accounted.message {text reply : String} (logs : out.LogsCloses calls) (inCourse : r.InCourse out w)
    (h : r.Accounted calls plans mode w₀ w b) (done : r.process out id text deadline w = (some (reply, r'), w')) :
    r'.Accounted calls plans mode w₀ w' (noted b id r r') := by
  have named := inCourse.named id deadline
  have doors := doors_process logs r id text deadline w
  rw [done] at doors
  unfold noted
  cases has : r.session? id with
  | some x =>
    obtain ⟨x', kept, table, memory, alike⟩ := process_goes_on named has (h.alike has) done
    exact (h.goes_on has kept table memory alike).doors doors
  | none =>
    obtain ⟨x, r₁, w₁, begins, named', again⟩ := process_begins out deadline w has
    rw [again] at done
    have has₁ : r₁.session? id = some x := by rw [session?_eq, begins.table, Table.get?_put, if_pos rfl]
    obtain ⟨x', kept, table, memory, alike⟩ := process_goes_on (named' named) has₁ begins.alike done
    have has' : r'.session? id = some x' := by rw [session?_eq, table, Table.get?_put, if_pos rfl]
    have doors₁ := doors_process logs r₁ id text deadline w₁
    rw [done] at doors₁
    rw [has']
    dsimp only
    rw [memory]
    exact ((h.begins logs has begins).goes_on has₁ kept table memory alike).doors doors₁

theorem Vacant.accounted (vacant : r.Vacant) (planned : ∀ plan, r.memory = .perSession plan → plans plan) (isOpen : ∀ memory, r.memory = .shared memory → ∀ store ∈ memory.list,
    store.place < w.stores.length ∧ w.closed? store ≠ some true) : r.Accounted calls plans r.memory w w {} := by
  have table : r.table = [] := by
    cases r with
    | desk d => exact congrArg (Table.mapEntries Held.desk) vacant
    | single m => exact congrArg (Table.mapEntries Held.single) vacant
  constructor
  case same => rfl
  case once =>
    rw [table]
    exact .nil
  case alike =>
    intro id x has
    rw [vacant.session?] at has
    cases has
  case outstanding =>
    unfold entries
    rw [table]
    exact .nil
  case square => exact .new planned isOpen

theorem Course.accounted (logs : out.LogsCloses calls) (vacant : r₀.Vacant)
    (isOpen : ∀ memory, r₀.memory = .shared memory → ∀ store ∈ memory.list,
      store.place < w₀.stores.length ∧ w₀.closed? store ≠ some true)
    (h : Course out calls plans r₀ w₀ r w b) : ∃ plan, r.Accounted calls plans (r₀.memory.replan plan) w₀ w b := by
  induction h with
  | opened planned =>
    obtain ⟨plan, same⟩ := r₀.memory.exists_replan_eq
    refine ⟨plan, ?_⟩
    rw [same]
    exact vacant.accounted planned isOpen
  | message before done ih =>
    obtain ⟨plan, ih⟩ := ih
    exact ⟨plan, ih.message logs (before.inCourse vacant) done⟩
  | @ended r w b deadline id ended r' w' before done ih =>
    obtain ⟨plan, ih⟩ := ih
    refine ⟨plan, ?_⟩
    cases has : r.session? id with
    | none =>
      rw [endSession_absent has] at done
      cases done
      exact ih
    | some x =>
      obtain ⟨r₁, kept, table, ran⟩ := endSession_live out has
      rw [ran, ih.same] at done
      cases done
      exact ih.ended logs has kept table
  | @shutdown r w b deadline r' w' before done ih =>
    obtain ⟨plan, ih⟩ := ih
    refine ⟨plan, ?_⟩
    obtain ⟨r₁, kept, table, ran⟩ := shutdown_run out r
    rw [ran, ih.same] at done
    cases done
    exact ih.shutdown logs kept table
  | configured _ _ ih | equipped _ _ _ ih =>
    obtain ⟨plan, ih⟩ := ih
    exact ⟨plan, ih.doors (World.doors_of_stores rfl rfl)⟩
  | @replanned _ _ _ next _ planned ih =>
    obtain ⟨plan, ih⟩ := ih
    have accounted := ih.replan planned
    rw [MemoryMode.replan_replan] at accounted
    exact ⟨next, accounted⟩
  | elsewhere _ _ doors ih =>
    obtain ⟨plan, ih⟩ := ih
    exact ⟨plan, ih.doors doors⟩

end

end Reception

end Concierge
