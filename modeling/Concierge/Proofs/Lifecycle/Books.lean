import Concierge.Proofs.Lifecycle.Sessions

/-!
# Books of the memory that sessions are given

Books are kept of the memory that was given to sessions, of that whose session has ended since, and of how
often all sessions were ended at once. They tell which stores are closed and how often each store outside was
called to be closed: the books `Square` with the world.
-/

namespace Concierge

open Run Memory

variable {σ : Type}

structure Books where
  /-- The memory of each session that has begun. -/
  given : List (String × Adapters) := []
  /-- That of the sessions that have ended. -/
  back : List (String × Adapters) := []
  shutdowns : Nat := 0

namespace Books

def give (b : Books) (e : String × Adapters) : Books := { b with given := b.given ++ [e] }

def take (b : Books) (e : String × Adapters) : Books := { b with back := b.back ++ [e] }

def takeAll (b : Books) (es : List (String × Adapters)) : Books :=
  { b with back := b.back ++ es, shutdowns := b.shutdowns + 1 }

def stores (b : Books) : MemoryMode → List StoreId
  | .none => []
  | .shared memory => memory.list
  | .perSession _ => b.given.flatMap fun e => e.2.list

/-- The stores that were closed, in that order. Those that are shared are closed when all sessions are ended,
those of a session with the session. -/
def closed (b : Books) : MemoryMode → List StoreId
  | .none => []
  | .shared memory => (List.replicate b.shutdowns memory.list).flatten
  | .perSession _ => b.back.flatMap fun e => e.2.list

variable {b : Books} {mode : MemoryMode} {e : String × Adapters} {es : List (String × Adapters)}

theorem closed_take : (b.take e).closed mode = b.closed mode ++ mode.ofSession e.2 := by
  cases mode with
  | none => rfl
  | shared memory => exact (List.append_nil _).symm
  | perSession plan => simp [closed, take, MemoryMode.ofSession]

theorem closed_takeAll : (b.takeAll es).closed mode = b.closed mode ++ mode.ofAll (es.map (·.2)) := by
  cases mode with
  | none => rfl
  | shared memory => simp [closed, takeAll, MemoryMode.ofAll, List.replicate_succ']
  | perSession plan => simp [closed, takeAll, MemoryMode.ofAll, List.flatMap_map]

/-- What sessions are given is what the mode has for them. If they have stores of their own then those are as one
of the plans has them, and no store is given twice. -/
def Proper (plans : StorePlan → Prop) (w : World σ) (given : List (String × Adapters)) : MemoryMode → Prop
  | .none => ∀ e ∈ given, e.2 = {}
  | .shared memory => ∀ e ∈ given, e.2 = memory
  | .perSession plan => plans plan ∧ (given.Pairwise fun e e' => e.2.list.Disjoint e'.2.list) ∧
      ∀ e ∈ given, ∃ plan, plans plan ∧ plan.Met (fun store kind => w.kind? store = some kind) e.2

variable {plans : StorePlan → Prop}

theorem Proper.later {w w' : World σ} {given : List (String × Adapters)} (h : Proper plans w given mode)
    (kinds : ∀ store kind, w.kind? store = some kind → w'.kind? store = some kind) : Proper plans w' given mode := by
  cases mode with
  | none => exact h
  | shared memory => exact h
  | perSession plan =>
    refine ⟨h.1, h.2.1, fun e he => ?_⟩
    obtain ⟨opened, planned, met⟩ := h.2.2 e he
    exact ⟨opened, planned, met.mono kinds⟩

theorem Proper.replan {w : World σ} {given : List (String × Adapters)} {plan : StorePlan} (h : Proper plans w given mode)
    (planned : plans plan) : Proper plans w given (mode.replan plan) := by
  cases mode with
  | none => exact h
  | shared memory => exact h
  | perSession _ => exact ⟨planned, h.2⟩

structure Square (calls : σ → List Nat) (plans : StorePlan → Prop) (mode : MemoryMode) (w₀ w : World σ) (b : Books) :
    Prop where
  back : ∀ e ∈ b.back, e ∈ b.given
  proper : Proper plans w b.given mode
  inside : ∀ store ∈ b.stores mode, store.place < w.stores.length
  closed : ∀ store ∈ b.stores mode, ∀ c, w.closed? store = some c → (c = true ↔ store ∈ b.closed mode)
  calls : calls w.outside = calls w₀.outside ++ w.keys (b.closed mode)

namespace Square

variable {calls : σ → List Nat} {w₀ w w' : World σ}

theorem mem_stores (h : b.Square calls plans mode w₀ w) {store : StoreId} (hs : store ∈ b.closed mode) :
    store ∈ b.stores mode := by
  cases mode with
  | none => exact hs
  | shared memory =>
    obtain ⟨list, hl, inside⟩ := List.mem_flatten.mp hs
    rw [List.eq_of_mem_replicate hl] at inside
    exact inside
  | perSession plan =>
    obtain ⟨e, he, inside⟩ := List.mem_flatMap.mp hs
    exact List.mem_flatMap.mpr ⟨e, h.back e he, inside⟩

theorem new (planned : ∀ plan, mode = .perSession plan → plans plan)
    (isOpen : ∀ memory, mode = .shared memory → ∀ store ∈ memory.list,
      store.place < w.stores.length ∧ w.closed? store ≠ some true) : ({} : Books).Square calls plans mode w w := by
  have nothing : calls w.outside = calls w.outside ++ w.keys [] := (List.append_nil _).symm
  cases mode with
  | none => exact ⟨nofun, nofun, nofun, nofun, nothing⟩
  | shared memory =>
    refine ⟨nofun, nofun, fun store hs => (isOpen memory rfl store hs).1, fun store hs c known => ?_, nothing⟩
    refine iff_of_false (fun closed => ?_) (List.not_mem_nil)
    rw [closed] at known
    exact (isOpen memory rfl store hs).2 known
  | perSession plan => exact ⟨nofun, ⟨planned plan rfl, .nil, nofun⟩, nofun, nofun, nothing⟩

theorem replan {plan : StorePlan} (h : b.Square calls plans mode w₀ w) (planned : plans plan) :
    b.Square calls plans (mode.replan plan) w₀ w := by
  have stores : b.stores (mode.replan plan) = b.stores mode := by cases mode <;> rfl
  have closed : b.closed (mode.replan plan) = b.closed mode := by cases mode <;> rfl
  refine ⟨h.back, h.proper.replan planned, ?_, ?_, ?_⟩
  · rw [stores]
    exact h.inside
  · rw [stores, closed]
    exact h.closed
  · rw [closed]
    exact h.calls

theorem doors (h : b.Square calls plans mode w₀ w) (doors : w.Doors calls w') : b.Square calls plans mode w₀ w' := by
  have kinds (store : StoreId) (kind : StoreKind) (has : w.kind? store = some kind) : w'.kind? store = some kind := by
    rw [doors.kinds (World.lt_of_kind? has)]
    exact has
  constructor
  case back => exact h.back
  case proper => exact h.proper.later kinds
  case inside =>
    intro store hs
    exact Nat.lt_of_lt_of_le (h.inside store hs) doors.places
  case closed =>
    intro store hs c known
    rw [doors.closed (h.inside store hs)] at known
    exact h.closed store hs c known
  case calls =>
    rw [doors.calls, h.calls, World.keys_congr fun store hs => doors.kinds (h.inside store (h.mem_stores hs))]

theorem give (h : b.Square calls plans mode w₀ w) (id : String) :
    (b.give (id, (mode.supply w).1)).Square calls plans mode w₀ (mode.supply w).2 := by
  have back (e : String × Adapters) (he : e ∈ b.back) : e ∈ (b.give (id, (mode.supply w).1)).given :=
    List.mem_append_left _ (h.back e he)
  cases mode with
  | none =>
    refine ⟨back, fun e he => ?_, h.inside, h.closed, h.calls⟩
    rcases List.mem_append.mp he with old | new
    · exact h.proper e old
    · rw [List.mem_singleton.mp new]
      rfl
  | shared memory =>
    refine ⟨back, fun e he => ?_, h.inside, h.closed, h.calls⟩
    rcases List.mem_append.mp he with old | new
    · exact h.proper e old
    · rw [List.mem_singleton.mp new]
      rfl
  | perSession plan =>
    obtain ⟨-, met⟩ := World.news_openAll plan w
    have kept := h.doors (World.doors_openAll plan w)
    -- A store that is given now lies behind all that were given before.
    have entry {store : StoreId} (hs : store ∈ (b.give (id, (World.openAll plan w).1)).stores (.perSession plan)) :
        store ∈ b.stores (.perSession plan) ∨
          ∃ kind, (World.openAll plan w).2.New w.stores.length kind store := by
      obtain ⟨e, he, inside⟩ := List.mem_flatMap.mp hs
      rcases List.mem_append.mp he with old | new
      · exact Or.inl (List.mem_flatMap.mpr ⟨e, old, inside⟩)
      · rw [List.mem_singleton.mp new] at inside
        exact Or.inr (met.of_mem inside)
    constructor
    case back => exact back
    case proper =>
      obtain ⟨planned, apart, -⟩ := h.proper
      refine ⟨planned, List.pairwise_append.mpr ⟨apart, List.pairwise_singleton _ _,
        fun e he e' he' store hs hs' => ?_⟩, fun e he => ?_⟩
      · rw [List.mem_singleton.mp he'] at hs'
        obtain ⟨kind, above, -⟩ := met.of_mem hs'
        have below := h.inside store (List.mem_flatMap.mpr ⟨e, he, hs⟩)
        omega
      · rcases List.mem_append.mp he with old | new
        · exact kept.proper.2.2 e old
        · rw [List.mem_singleton.mp new]
          exact ⟨plan, planned, met.mono fun store kind => World.New.kind?_eq⟩
    case inside =>
      intro store hs
      rcases entry hs with old | ⟨kind, new⟩
      · exact kept.inside store old
      · exact World.lt_of_kind? new.kind?_eq
    case closed =>
      intro store hs c known
      rcases entry hs with old | ⟨kind, new⟩
      · exact kept.closed store old c known
      · refine iff_of_false (fun closed => ?_) fun closed => ?_
        · rw [closed] at known
          exact new.closed?_ne known
        · have below := h.inside store (h.mem_stores closed)
          have above := new.1
          omega
    case calls => exact kept.calls

theorem close {out : Outside σ} {b' : Books} {ids : List StoreId} (logs : out.LogsCloses calls)
    (h : b.Square calls plans mode w₀ w) (given : b'.given = b.given) (back : ∀ e ∈ b'.back, e ∈ b.given)
    (closed : b'.closed mode = b.closed mode ++ ids) (own : ∀ store ∈ ids, store ∈ b.stores mode) :
    b'.Square calls plans mode w₀ (World.closeEach out ids w) := by
  have stores : b'.stores mode = b.stores mode := by
    cases mode with
    | none | shared => rfl
    | perSession plan =>
      unfold Books.stores
      rw [given]
  constructor
  case back =>
    rw [given]
    exact back
  case proper =>
    rw [given]
    exact h.proper.later fun store kind has => by rw [World.kind?_closeEach, has]
  case inside =>
    rw [stores, World.length_closeEach]
    exact h.inside
  case closed =>
    intro store hs c known
    rw [stores] at hs
    rw [World.closed?_closeEach] at known
    rw [closed, List.mem_append]
    by_cases here : store ∈ ids
    · rw [if_pos here] at known
      obtain ⟨_, -, rfl⟩ := Option.map_eq_some_iff.mp known
      exact iff_of_true rfl (Or.inr here)
    · rw [if_neg here] at known
      rw [h.closed store hs c known]
      exact (or_iff_left here).symm
  case calls =>
    rw [World.calls_closeEach logs, h.calls, closed, World.keys_closeEach, World.keys_append, List.append_assoc]

end Square

end Books

end Concierge
