import Concierge.Proofs.Isolation.Privacy
import Concierge.Proofs.Lifecycle.Course
import Mathlib.Data.List.Pairwise

/-!
# How long stores live

What the books of a reception come to. Stores of their own live as long as their session
(`Reception.OwnStores`), shared ones until all sessions are ended (`Reception.SharedStores`). A session that
has ended leaves nothing but what is stored, and the next message begins another (`Reception.Turnover`).
-/

namespace Concierge

open Run Memory

variable {σ β : Type}

namespace Reception

/-- Each session is given stores by one of the plans that no other is ever given. These are closed if the session has
ended, and only then. No session that is there works on a closed store. -/
structure OwnStores (calls : σ → List Nat) (plans : StorePlan → Prop) (w₀ : World σ) (r : Reception) (w : World σ)
    (b : Books) : Prop where
  planned : ∀ e ∈ b.given, ∃ plan, plans plan ∧ plan.Met (fun store kind => w.kind? store = some kind) e.2
  apart : b.given.Pairwise fun e e' => e.2.list.Disjoint e'.2.list
  closed : ∀ e ∈ b.given, ∀ store ∈ e.2.list, ∀ c, w.closed? store = some c → (c = true ↔ e ∈ b.back)
  calls : calls w.outside = calls w₀.outside ++ b.back.flatMap fun e => w.keys e.2.list
  live : ∀ id h, r.session? id = some h → ∀ c ∈ h.chats, c.memory = h.memory ∧
    ∀ store ∈ c.memory.list, w.closed? store ≠ some true

/-- All sessions have the same stores. These are closed if all sessions were ended, and only then, each time
anew. -/
structure SharedStores (calls : σ → List Nat) (memory : Adapters) (w₀ : World σ) (r : Reception) (w : World σ)
    (b : Books) : Prop where
  shared : ∀ id h, r.session? id = some h → ∀ c ∈ h.chats, c.memory = memory
  closed : ∀ store ∈ memory.list, ∀ c, w.closed? store = some c → (c = true ↔ 0 < b.shutdowns)
  calls : calls w.outside = calls w₀.outside ++ (List.replicate b.shutdowns (w.keys memory.list)).flatten

/-- Sessions end, all that is stored stays, and a message begins a new session where there is none. What a
message does to what is stored concerns its own session and the chats that it begins. -/
structure Turnover (out : Outside σ) (drawn : σ → List ChatId) (view : Nat → ChatId → σ → β)
    (calls : σ → List Nat) (r : Reception) (w : World σ) : Prop where
  ended : ∀ id deadline, ∃ r' w', r.endSession out id deadline w = (some ((r.session? id).isSome, r'), w') ∧
    (∀ j, r'.session? j = if j = id then none else r.session? j) ∧ w.SameRecords view w'
  shutdown : ∀ deadline, ∃ r' w', r.shutdown out deadline w = (some r', w') ∧
    (∀ j, r'.session? j = none) ∧ w.SameRecords view w'
  begun : ∀ id deadline, r.session? id = none → ∃ h r₁ w₁, Begins out id r w h r₁ w₁ ∧
    (h.memory.isPersistent → ∃ k, h.chatId? = some k ∧ drawn w₁.outside = drawn w.outside ++ [k] ∧
      ((drawn w₁.outside).Nodup → k ∉ drawn w.outside)) ∧
    ∀ text, r.process out id text deadline w = r₁.process out id text deadline w₁
  message : ∀ id text deadline result w', r.process out id text deadline w = (result, w') →
    w.Doors calls w' ∧ ((drawn w'.outside).Nodup → ∀ k, (∀ h, r.session? id = some h → ¬ h.Has k) →
      (k ∈ drawn w'.outside → k ∈ drawn w.outside) →
      ∀ store, store.place < w.stores.length → w'.kept view store k = w.kept view store k)

section
variable {out : Outside σ} {calls : σ → List Nat} {plans : StorePlan → Prop} {drawn : σ → List ChatId} {view : Nat → ChatId → σ → β}
  {r₀ r r' r₁ : Reception} {w₀ w w' w₁ : World σ} {b : Books} {id text : String} {h x : Held}
  {deadline : Option Nat}

/-! ## What is closed -/

theorem Accounted.ownStores {plan : StorePlan} (h : r.Accounted calls plans (.perSession plan) w₀ w b) :
    OwnStores calls plans w₀ r w b := by
  obtain ⟨-, apart, planned⟩ := h.square.proper
  have symm : Std.Symm fun e e' : String × Adapters => e.2.list.Disjoint e'.2.list :=
    ⟨fun _ _ disjoint => List.disjoint_symm disjoint⟩
  have closed (e : String × Adapters) (he : e ∈ b.given) (store : StoreId) (hs : store ∈ e.2.list) (c : Bool)
      (known : w.closed? store = some c) : c = true ↔ e ∈ b.back := by
    rw [h.square.closed store (List.mem_flatMap.mpr ⟨e, he, hs⟩) c known]
    constructor
    · intro inside
      obtain ⟨e', he', hs'⟩ := List.mem_flatMap.mp inside
      by_contra missing
      have other : e ≠ e' := by
        rintro rfl
        exact missing he'
      exact apart.forall he (h.square.back e' he') other hs hs'
    · intro back
      exact List.mem_flatMap.mpr ⟨e, back, hs⟩
  constructor
  case planned => exact planned
  case apart => exact apart
  case closed => exact closed
  case calls =>
    rw [h.square.calls]
    unfold Books.closed World.keys
    rw [List.filterMap_flatMap]
  case live =>
    intro id x has c hc
    have memory := h.alike has c hc
    refine ⟨memory, fun store hs shut => ?_⟩
    rw [memory] at hs
    have entry := mem_entries has
    have given := h.outstanding.mem_iff.mpr (List.mem_append_right _ entry)
    -- What has come back is apart from what is outstanding.
    have parted := (h.outstanding.pairwise_iff fun disjoint => List.disjoint_symm disjoint).mp apart
    have back := (closed _ given store hs true shut).mp rfl
    exact (List.pairwise_append.mp parted).2.2 _ back _ entry hs hs

theorem Accounted.sharedStores {memory : Adapters} (h : r.Accounted calls plans (.shared memory) w₀ w b) :
    SharedStores calls memory w₀ r w b := by
  constructor
  case shared =>
    intro id x has c hc
    rw [h.alike has c hc]
    exact h.square.proper _ (h.outstanding.mem_iff.mpr (List.mem_append_right _ (mem_entries has)))
  case closed =>
    intro store hs c known
    rw [h.square.closed store hs c known]
    constructor
    · intro inside
      obtain ⟨list, hl, -⟩ := List.mem_flatten.mp inside
      exact Nat.pos_of_ne_zero (List.mem_replicate.mp hl).1
    · intro pos
      exact List.mem_flatten.mpr ⟨_, List.mem_replicate.mpr ⟨Nat.ne_of_gt pos, rfl⟩, hs⟩
  case calls =>
    rw [h.square.calls]
    unfold Books.closed World.keys
    rw [List.filterMap_flatten, List.map_replicate]

/-! ## What is stored -/

section
variable (hd : out.Draws drawn)
include hd

theorem Begins.drawn_eq (h : Begins out id r w x r₁ w₁) : if x.memory.isPersistent then
      ∃ k, x.chatId? = some k ∧ drawn w₁.outside = drawn w.outside ++ [k]
    else x.chatId? = none ∧ drawn w₁.outside = drawn w.outside := by
  have drew := h.drawn
  split at drew
  · rename_i persistent
    rw [if_pos persistent]
    refine ⟨_, drew.1, ?_⟩
    rw [drew.2]
    exact hd.drawChatId _
  · rename_i transient
    rw [if_neg transient]
    refine ⟨drew.1, ?_⟩
    rw [drew.2, r.memory.outside_supply]

omit hd in
theorem Begins.spares {P : ChatId → Prop} (keeps : out.Keeps view) (h : Begins out id r w x r₁ w₁) :
    w.Spares view P w₁ := by
  have supplied : w.Spares view P (r.memory.supply w).2 := by
    cases r.memory with
    | none | shared => exact .refl w
    | perSession plan => exact World.spares_openAll plan w
  have drew := h.drawn
  split at drew
  · rw [drew.2]
    refine supplied.trans (World.spares_of_stores rfl rfl fun key k => ?_)
    rw [r.memory.outside_supply]
    exact keeps.moves .drawChatId key k
  · rw [drew.2]
    exact supplied

theorem kept_process {result : Option (String × Reception)} {k : ChatId} {store : StoreId} (keeps : out.Keeps view)
    (inCourse : r.InCourse out w) (alike : ∀ h, r.session? id = some h → h.Alike)
    (run : r.process out id text deadline w = (result, w')) (once : (drawn w'.outside).Nodup)
    (foreign : ∀ h, r.session? id = some h → ¬ h.Has k) (undrawn : k ∈ drawn w'.outside → k ∈ drawn w.outside)
    (inside : store.place < w.stores.length) : w'.kept view store k = w.kept view store k := by
  have named := inCourse.named id deadline
  cases has : r.session? id with
  | some x =>
    have own : x.Own (· = k) := by
      refine ⟨fun j known same => ?_, alike x has⟩
      exact foreign x has (same ▸ known)
    have clear : Clear (· = k) (drawn w'.outside) (drawn w.outside) := by
      rintro j rfl
      exact undrawn
    exact (spares_process hd keeps named has own clear once run).kept_eq rfl inside
  | none =>
    obtain ⟨x, r₁, w₁, begins, named', again⟩ := process_begins out deadline w has
    rw [again] at run
    have has₁ : r₁.session? id = some x := by rw [session?_eq, begins.table, Table.get?_put, if_pos rfl]
    have grown : drawn w₁.outside <+: drawn (r₁.process out id text deadline w₁).2.outside := drawn_process hd
    rw [run] at grown
    have drew := begins.drawn_eq hd
    have own : x.Own (· = k) := by
      refine ⟨fun j known same => ?_, begins.alike⟩
      have first := begins.only j known
      subst same
      split at drew
      · obtain ⟨new, known', drew⟩ := drew
        rw [first] at known'
        cases known'
        -- It was drawn just now, so it was not drawn before.
        rw [drew] at grown
        have later : j ∈ drawn w'.outside := grown.subset (List.mem_append_right _ (List.mem_singleton_self j))
        have distinct := List.nodup_append.mp (once.sublist grown.sublist)
        exact distinct.2.2 j (undrawn later) j (List.mem_singleton_self j) rfl
      · rw [first] at drew
        cases drew.1
    have clear : Clear (· = k) (drawn w'.outside) (drawn w₁.outside) := by
      rintro j rfl later
      have before := undrawn later
      split at drew
      · obtain ⟨new, -, drew⟩ := drew
        rw [drew]
        exact List.mem_append_left _ before
      · rw [drew.2]
        exact before
    have spared := begins.spares (P := (· = k)) keeps
    have spared' := spares_process hd keeps (named' named) has₁ own clear once run
    exact (spared.trans spared').kept_eq rfl inside

theorem turnover (logs : out.LogsCloses calls) (outlasts : out.Outlasts view) (inCourse : r.InCourse out w)
    (alike : ∀ id h, r.session? id = some h → h.Alike) : Turnover out drawn view calls r w := by
  constructor
  case ended =>
    intro id deadline
    cases has : r.session? id with
    | none =>
      refine ⟨r, w, endSession_absent has, fun j => ?_, fun _ _ => rfl⟩
      by_cases here : j = id <;> simp [here, has]
    | some x =>
      obtain ⟨r', -, table, ran⟩ := endSession_live out has
      refine ⟨r', _, ran deadline w, fun j => ?_, World.sameRecords_closeEach outlasts _⟩
      rw [session?_eq, table, Table.get?_erase, session?_eq]
  case shutdown =>
    intro deadline
    obtain ⟨r', -, table, ran⟩ := shutdown_run out r
    refine ⟨r', _, ran deadline w, fun j => ?_, World.sameRecords_closeEach outlasts _⟩
    rw [session?_eq, table]
    rfl
  case begun =>
    intro id deadline absent
    obtain ⟨x, r₁, w₁, begins, -, again⟩ := process_begins out deadline w absent
    refine ⟨x, r₁, w₁, begins, fun persistent => ?_, again⟩
    have drew := begins.drawn_eq hd
    rw [if_pos persistent] at drew
    obtain ⟨k, known, drew⟩ := drew
    refine ⟨k, known, drew, fun once before => ?_⟩
    rw [drew] at once
    exact (List.nodup_append.mp once).2.2 k before k (List.mem_singleton_self k) rfl
  case message =>
    intro id text deadline result w' run
    have doors := doors_process logs r id text deadline w
    rw [run] at doors
    refine ⟨doors, fun once k foreign undrawn store inside => ?_⟩
    exact kept_process hd outlasts.toKeeps inCourse (alike id) run once foreign undrawn inside

end

/-- **Stores live as long as the sessions that have them.** Along any course of a desk or of an agent alone
the memory given to sessions is that of the sessions that have ended and of those that there are. The stores
are closed accordingly, be they of the sessions or shared, and no failure to close one of them keeps another
open. -/
theorem stores_live_with_sessions (logs : out.LogsCloses calls) (hd : out.Draws drawn)
    (outlasts : out.Outlasts view) (vacant : r₀.Vacant)
    (isOpen : ∀ memory, r₀.memory = .shared memory → ∀ store ∈ memory.list,
      store.place < w₀.stores.length ∧ w₀.closed? store ≠ some true)
    (course : Course out calls plans r₀ w₀ r w b) :
    b.given.Perm (b.back ++ r.entries) ∧
      (∀ plan, r₀.memory = .perSession plan → OwnStores calls plans w₀ r w b) ∧
      (∀ memory, r₀.memory = .shared memory → SharedStores calls memory w₀ r w b) ∧
      Turnover out drawn view calls r w := by
  obtain ⟨_, accounted⟩ := course.accounted logs vacant isOpen
  refine ⟨accounted.outstanding, fun plan own => ?_, fun memory shared => ?_, ?_⟩
  · rw [own] at accounted
    exact accounted.ownStores
  · rw [shared] at accounted
    exact accounted.sharedStores
  · exact turnover hd logs outlasts (course.inCourse vacant) fun id h has => accounted.alike has

end

end Reception

namespace Rehearsal

/-- The facts are kept outside, where every call fails, and all else in memory. -/
def apart : StorePlan := ⟨some .memory, some (.outside 7), some .memory⟩

def counter : Desk := { config := {}, provider := ⟨.outside, "main", 0⟩, memory := .perSession apart }

def visitors : World (Stage × List Nat) where
  outside := (greeting.outside, [])

end Rehearsal

open Rehearsal in
theorem Reception.stores_live_with_sessions_visitors :
    ∃ r w b, Course Stage.outside.logging Prod.snd (· = apart) (.desk counter) visitors r w b ∧
      b.given = [("a", ⟨some ⟨0⟩, some ⟨1⟩, some ⟨0⟩⟩), ("a", ⟨some ⟨2⟩, some ⟨3⟩, some ⟨2⟩⟩)] ∧
      b.back = [("a", ⟨some ⟨0⟩, some ⟨1⟩, some ⟨0⟩⟩)] ∧
      w.closed? ⟨0⟩ = some true ∧ w.closed? ⟨2⟩ = some false ∧ w.outside.2 = [7] ∧
      b.given.Perm (b.back ++ r.entries) ∧ OwnStores Prod.snd (· = apart) visitors r w b ∧
      Turnover Stage.outside.logging (fun s => Stage.drawn s.1) (fun _ _ _ => ()) Prod.snd r w := by
  obtain ⟨⟨r₁, r₂, r₃⟩, w, ran, seen⟩ := answer_of_seen
    (do
      let first ← (Reception.desk counter).process Stage.outside.logging "a" "Hi"
      let ended ← first.2.endSession Stage.outside.logging "a"
      let again ← ended.2.process Stage.outside.logging "a" "And now?"
      return (first.2, ended.2, again.2)) none visitors
    (fun y w =>
      let b := (y.1.session? "a").elim (noted {} "a" (.desk counter) y.1) fun h =>
        (noted {} "a" (.desk counter) y.1).take ("a", h.memory)
      let b := noted b "a" y.2.1 y.2.2
      (b.given, b.back, decide (w.closed? ⟨0⟩ = some true ∧ w.closed? ⟨2⟩ = some false ∧ w.outside.2 = [7])))
    (show _ = some ([("a", ⟨some ⟨0⟩, some ⟨1⟩, some ⟨0⟩⟩), ("a", ⟨some ⟨2⟩, some ⟨3⟩, some ⟨2⟩⟩)],
      [("a", ⟨some ⟨0⟩, some ⟨1⟩, some ⟨0⟩⟩)], true) by decide +kernel)
  simp only [Prod.mk.injEq, decide_eq_true_eq] at seen
  obtain ⟨given, back, closed, isOpen, called⟩ := seen
  obtain ⟨⟨_, _⟩, _, first, rest⟩ := bind_eq_some.mp ran
  obtain ⟨⟨_, _⟩, _, ended, rest⟩ := bind_eq_some.mp rest
  obtain ⟨⟨_, _⟩, _, again, same⟩ := bind_eq_some.mp rest
  cases same
  have planned (plan : StorePlan) (own : (Reception.desk counter).memory = .perSession plan) : plan = apart := by
    cases own
    rfl
  have course : Course Stage.outside.logging Prod.snd (· = apart) (.desk counter) visitors _ _ _ :=
    .message (.ended (.message (.opened planned) first) ended) again
  have outlasts : Stage.outside.logging.Outlasts fun _ _ _ => () :=
    { toKeeps := Stage.outside.logging.keeps_nothing, closeStore := fun _ _ _ _ => rfl }
  have vacant : (Reception.desk counter).Vacant := rfl
  obtain ⟨outstanding, own, -, turnover⟩ := stores_live_with_sessions Stage.outside.logsCloses_logging
    draws_drawn.logging outlasts vacant nofun course
  exact ⟨_, _, _, course, given, back, closed, isOpen, called, outstanding, own apart rfl, turnover⟩

end Concierge
