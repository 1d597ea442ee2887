import Concierge.Proofs.Cache
import Concierge.Proofs.Isolation.Service

/-!
# The other sessions

A reception is `Reached` when messages are received, sessions end and the registry is configured, one after
the other. In all that is reached, if chat ids never repeat, no chat and no store of its own belongs to two
sessions: the reception is `Settled`. Hence a message of a session, and its end, leave all others as they
were and what is stored of their chats (`Reached.process_others`, `Reached.endSession_others`).
-/

namespace Concierge

open Run Memory

variable {σ β : Type}

theorem Outside.keeps_nothing (out : Outside σ) : out.Keeps fun _ _ _ => () :=
  ⟨fun _ _ _ => rfl, fun _ _ _ _ _ _ _ => rfl⟩

/-! ## Chats that were not drawn yet -/

structure World.Tidy (drawn : σ → List ChatId) (w : World σ) : Prop where
  memory : ∀ {k}, k ∉ drawn w.outside → ∀ {place : Nat} {s : InMemory}, w.stores[place]? = some (.memory s) →
    s.records.get? k = none
  records : ∀ {k}, k ∉ drawn w.outside → w.folder.nodes.get? (FileStore.recordName k) = none
  drafts : ∀ {k}, k ∉ drawn w.outside → w.folder.nodes.get? (FileStore.draftName k) = none

namespace World

variable {drawn : σ → List ChatId} {view : Nat → ChatId → σ → β} {P : ChatId → Prop} {w w' : World σ}

/-- Chats that were not drawn before are spared, and those that are not drawn now. -/
theorem Tidy.later (h : w.Tidy drawn) (spared : w.Spares view P w') (grown : drawn w.outside <+: drawn w'.outside)
    (fresh : ∀ k, k ∉ drawn w'.outside → P k) : w'.Tidy drawn := by
  have old {k : ChatId} (undrawn : k ∉ drawn w'.outside) : k ∉ drawn w.outside := by
    intro drew
    exact undrawn (grown.subset drew)
  constructor
  case memory =>
    intro k undrawn place s has
    by_cases inside : place < w.stores.length
    · have same := spared.stores (fresh k undrawn) inside
      rw [has] at same
      cases had : w.stores[place]? with
      | none => simp [had] at same
      | some held =>
        cases held with
        | memory s₀ =>
          simp only [had, Option.map_some, Store.glimpse, Option.some.injEq, Glimpse.memory.injEq] at same
          rw [same.2]
          exact h.memory (old undrawn) had
        | file | outside => simp [had, Store.glimpse] at same
    · exact spared.opened (fresh k undrawn) (Nat.le_of_not_lt inside) has
  case records =>
    intro k undrawn
    rw [spared.records (fresh k undrawn)]
    exact h.records (old undrawn)
  case drafts =>
    intro k undrawn
    rw [spared.drafts (fresh k undrawn)]
    exact h.drafts (old undrawn)

theorem Tidy.congr (h : w.Tidy drawn) (stores : w'.stores = w.stores) (folder : w'.folder = w.folder)
    (same : drawn w'.outside = drawn w.outside) : w'.Tidy drawn := by
  constructor
  · rw [stores, same]
    exact h.memory
  · rw [folder, same]
    exact h.records
  · rw [folder, same]
    exact h.drafts

theorem Tidy.closes {ids : List StoreId} (h : w.Tidy drawn) (closed : w.Closes drawn ids w') : w'.Tidy drawn := by
  constructor
  case memory =>
    intro k undrawn place s has
    rw [closed.drawn] at undrawn
    obtain ⟨s₀, had, same⟩ := closed.records has
    rw [same]
    exact h.memory undrawn had
  case records =>
    intro k undrawn
    rw [closed.drawn] at undrawn
    rw [closed.folder]
    exact h.records undrawn
  case drafts =>
    intro k undrawn
    rw [closed.drawn] at undrawn
    rw [closed.folder]
    exact h.drafts undrawn

theorem Closes.kept_eq {ids : List StoreId} (closed : w.Closes drawn ids w') (own : ∀ id ∈ ids, w.OpenFrom 0 id)
    {store : StoreId} (elsewhere : ∀ id ∈ ids, id.place ≠ store.place) (k : ChatId) :
    w'.kept view store k = w.kept view store k := by
  unfold kept
  rw [closed.elsewhere elsewhere, closed.folder, closed.outside own]

end World

namespace MemoryMode

variable {out : Outside σ} {drawn : σ → List ChatId} {deadline : Option Nat} {w w' : World σ}

theorem closes_closeSession (hd : out.Draws drawn) {mode : MemoryMode} {memory : Adapters}
    (h : mode.closeSession out memory deadline w = (some (), w')) :
    w' = w ∨ (∃ plan, mode = .perSession plan) ∧ w.Closes drawn memory.list w' := by
  cases mode with
  | none =>
    cases h
    exact Or.inl rfl
  | shared m =>
    cases h
    exact Or.inl rfl
  | perSession plan =>
    cases h
    exact Or.inr ⟨⟨plan, rfl⟩, World.closes_closeAll hd memory w⟩

theorem closes_close (hd : out.Draws drawn) {mode : MemoryMode} {sessions : List Adapters}
    (h : mode.close out sessions deadline w = (some (), w')) : ∃ ids, w.Closes drawn ids w' := by
  cases mode with
  | none =>
    cases h
    exact ⟨[], .refl w⟩
  | shared memory =>
    cases h
    exact ⟨_, World.closes_closeAll hd memory w⟩
  | perSession plan =>
    cases h
    dsimp only
    induction sessions generalizing w with
    | nil => exact ⟨[], .refl w⟩
    | cons memory sessions ih =>
      obtain ⟨ids, rest⟩ := ih (w := World.closeAll out memory w)
      exact ⟨_, (World.closes_closeAll hd memory w).trans rest⟩

end MemoryMode

namespace Reception

def Vacant : Reception → Prop
  | desk d => d.sessions = []
  | single m => m.sessions = []

/-- All that comes of a reception without sessions whose world is in order. -/
inductive Reached (out : Outside σ) (drawn : σ → List ChatId) : Reception → World σ → Prop
  | opened {r w} (vacant : r.Vacant) (independent : r.memory.Independent)
      (places : ∀ memory, r.memory = .shared memory → ∀ store ∈ memory.list, store.place < w.stores.length)
      (tidy : w.Tidy drawn) (sound : w.registry.Sound) : Reached out drawn r w
  | message {r w deadline id text reply r' w'} (before : Reached out drawn r w)
      (done : r.process out id text deadline w = (some (reply, r'), w')) : Reached out drawn r' w'
  | ended {r w deadline id ended r' w'} (before : Reached out drawn r w)
      (done : r.endSession out id deadline w = (some (ended, r'), w')) : Reached out drawn r' w'
  | shutdown {r w deadline r' w'} (before : Reached out drawn r w)
      (done : r.shutdown out deadline w = (some r', w')) : Reached out drawn r' w'
  | configured {r w} (before : Reached out drawn r w) (ds : List Specialist) :
      Reached out drawn r { w with registry := w.registry.configure ds }
  | equipped {r w} (before : Reached out drawn r w) (role : String) (tools : Toolbox) :
      Reached out drawn r { w with registry := w.registry.setTools role tools }
  | replanned {r w} {plan : StorePlan} (before : Reached out drawn r w) (inside : plan.Inside) :
      Reached out drawn (r.replan plan) w
  | elsewhere {r w w'} (before : Reached out drawn r w) (registry : w'.registry = w.registry)
      (stores : w'.stores = w.stores) (folder : w'.folder = w.folder)
      (grown : drawn w.outside <+: drawn w'.outside) : Reached out drawn r w'

/-- No chat and no store of its own belongs to two sessions. -/
structure Settled (drawn : σ → List ChatId) (r : Reception) (w : World σ) : Prop where
  independent : r.memory.Independent
  places : ∀ memory, r.memory = .shared memory → ∀ store ∈ memory.list, store.place < w.stores.length
  tidy : w.Tidy drawn
  sound : w.registry.Sound
  known : ∀ {i h}, r.session? i = some h → ∀ k, h.Has k → k ∈ drawn w.outside
  apart : ∀ {i j h h'}, i ≠ j → r.session? i = some h → r.session? j = some h' → ∀ k, h.Has k → ¬ h'.Has k
  memory : ∀ {i h}, r.session? i = some h → ∀ c ∈ h.chats, c.memory = h.memory
  supplied : ∀ {i h}, r.session? i = some h → r.memory.Supplies 0 w h.memory
  separate : ∀ {plan}, r.memory = .perSession plan → ∀ {i j h h'}, i ≠ j → r.session? i = some h →
    r.session? j = some h' → ∀ store ∈ h.memory.list, ∀ store' ∈ h'.memory.list, store.place ≠ store'.place

section
variable {out : Outside σ} {drawn : σ → List ChatId} {view : Nat → ChatId → σ → β} {deadline : Option Nat}
  {r r' : Reception} {w w' : World σ} {id text : String}

/-- The chats that are not the session's to use up to that world: those of others, and those not drawn. -/
def Foreign (drawn : σ → List ChatId) (r : Reception) (id : String) (w' : World σ) (k : ChatId) : Prop :=
  k ∉ drawn w'.outside ∨ ∃ j h, j ≠ id ∧ r.session? j = some h ∧ h.Has k

namespace Settled

theorem clear (h : r.Settled drawn w) (id : String) (w' : World σ) :
    Clear (r.Foreign drawn id w') (drawn w'.outside) (drawn w.outside) := by
  intro k foreign drew
  rcases foreign with undrawn | ⟨j, other, -, has, known⟩
  · exact absurd drew undrawn
  · exact h.known has k known

theorem own (h : r.Settled drawn w) {s : Held} (has : r.session? id = some s)
    (grown : drawn w.outside <+: drawn w'.outside) : s.Own (r.Foreign drawn id w') := by
  refine ⟨fun k known foreign => ?_, h.memory has⟩
  rcases foreign with undrawn | ⟨j, other, different, has', known'⟩
  · exact undrawn (grown.subset (h.known has k known))
  · exact h.apart different has' has k known' known

theorem inside (h : r.Settled drawn w) {s : Held} (has : r.session? id = some s) {store : StoreId}
    (hs : store ∈ s.memory.list) : store.place < w.stores.length := by
  have supplied := h.supplied has
  cases mode : r.memory with
  | none =>
    rw [mode] at supplied
    rw [show s.memory = {} from supplied] at hs
    cases hs
  | shared memory =>
    rw [mode] at supplied
    rw [show s.memory = memory from supplied] at hs
    exact h.places memory mode store hs
  | perSession plan =>
    rw [mode] at supplied
    exact (supplied store hs).lt

end Settled

/-! ## A message of a session -/

section
variable (hd : out.Draws drawn) (keeps : out.Keeps view)
include hd

theorem drawn_process : drawn w.outside <+: drawn (r.process out id text deadline w).2.outside :=
  along_process (drawn_deskDrift hd) r id text deadline w

include keeps

theorem Settled.serves (h : r.Settled drawn w) (named : r.Named out deadline id w) {result : Option (String × Reception)}
    (run : r.process out id text deadline w = (result, w')) (once : (drawn w'.outside).Nodup) :
    w.Spares view (r.Foreign drawn id w') w' ∧ ∀ reply r', result = some (reply, r') →
      ∃ s, Serves (r.Foreign drawn id w') id r w r' w' s := by
  have grown : drawn w.outside <+: drawn (r.process out id text deadline w).2.outside := drawn_process hd
  rw [run] at grown
  have own (s : Held) (has : r.session? id = some s) : s.Own (r.Foreign drawn id w') := h.own has grown
  exact serves_process hd keeps once (fun _ => h.independent) named own (h.clear id w') List.prefix_rfl run

end

theorem Settled.message (hd : out.Draws drawn) (h : r.Settled drawn w) (named : r.Named out deadline id w)
    {reply : String} (run : r.process out id text deadline w = (some (reply, r'), w'))
    (once : (drawn w'.outside).Nodup) : r'.Settled drawn w' := by
  obtain ⟨spared, served⟩ := h.serves hd (out.keeps_nothing) named run once
  obtain ⟨s, serves⟩ := served reply r' rfl
  have grown : drawn w.outside <+: drawn (r.process out id text deadline w).2.outside := drawn_process hd
  have sound : (r.process out id text deadline w).2.registry.Sound :=
    along_process (sound_deskDrift out) r id text deadline w h.sound
  rw [run] at grown sound
  -- The session of the message is told from all others: what is new of it was drawn or opened just now.
  have entry {i : String} {x : Held} (has : r'.session? i = some x) :
      i = id ∧ x = s ∨ i ≠ id ∧ r.session? i = some x := by
    by_cases here : i = id
    · rw [here, serves.session] at has
      cases has
      exact Or.inl ⟨here, rfl⟩
    · rw [serves.others i here] at has
      exact Or.inr ⟨here, has⟩
  have foreign {j : String} {x : Held} (other : j ≠ id) (has : r.session? j = some x) {k : ChatId} (known : x.Has k) :
      r.Foreign drawn id w' k := Or.inr ⟨j, x, other, has, known⟩
  constructor
  case independent =>
    rw [serves.mode]
    exact h.independent
  case places =>
    intro memory mode store hs
    rw [serves.mode] at mode
    exact Nat.lt_of_lt_of_le (h.places memory mode store hs) spared.places
  case tidy => exact h.tidy.later spared grown fun k undrawn => Or.inl undrawn
  case sound => exact sound
  case known =>
    intro i x has k known
    rcases entry has with ⟨-, rfl⟩ | ⟨-, old⟩
    · by_contra undrawn
      exact serves.own.apart k known (Or.inl undrawn)
    · exact grown.subset (h.known old k known)
  case apart =>
    intro i j x y different hi hj k known known'
    rcases entry hi with ⟨rfl, rfl⟩ | ⟨otherI, oldI⟩ <;> rcases entry hj with ⟨rfl, rfl⟩ | ⟨otherJ, oldJ⟩
    · exact different rfl
    · exact serves.own.apart k known (foreign otherJ oldJ known')
    · exact serves.own.apart k known' (foreign otherI oldI known)
    · exact h.apart different oldI oldJ k known known'
  case memory =>
    intro i x has
    rcases entry has with ⟨-, rfl⟩ | ⟨-, old⟩
    · exact serves.own.memory
    · exact h.memory old
  case supplied =>
    intro i x has
    rw [serves.mode]
    rcases entry has with ⟨-, rfl⟩ | ⟨-, old⟩
    · rcases serves.memory with ⟨x₀, had, same⟩ | ⟨-, given⟩
      · rw [same]
        exact (h.supplied had).later spared
      · exact given.lower (Nat.zero_le _)
    · exact (h.supplied old).later spared
  case separate =>
    intro plan mode i j x y different hi hj store hs store' hs'
    rw [serves.mode] at mode
    -- New stores have places behind all that were there.
    have apart {j : String} {y : Held} (other : j ≠ id) (old : r.session? j = some y) {store store' : StoreId}
        (hs : store ∈ s.memory.list) (hs' : store' ∈ y.memory.list) : store.place ≠ store'.place := by
      rcases serves.memory with ⟨x₀, had, same⟩ | ⟨-, given⟩
      · rw [same] at hs
        exact h.separate mode (Ne.symm other) had old store hs store' hs'
      · rw [mode] at given
        have above := (given store hs).1
        have below := h.inside old hs'
        omega
    rcases entry hi with ⟨rfl, rfl⟩ | ⟨otherI, oldI⟩ <;> rcases entry hj with ⟨rfl, rfl⟩ | ⟨otherJ, oldJ⟩
    · exact absurd rfl different
    · exact apart otherJ oldJ hs hs'
    · exact (apart otherI oldI hs' hs).symm
    · exact h.separate mode different oldI oldJ store hs store' hs'

/-! ## Sessions end -/

theorem Settled.fewer {ids : List StoreId} (h : r.Settled drawn w) (mode : r'.memory = r.memory)
    (fewer : ∀ {i x}, r'.session? i = some x → r.session? i = some x) (closed : w.Closes drawn ids w') :
    r'.Settled drawn w' := by
  constructor
  case independent =>
    rw [mode]
    exact h.independent
  case places =>
    intro memory shared store hs
    rw [mode] at shared
    rw [closed.length]
    exact h.places memory shared store hs
  case tidy => exact h.tidy.closes closed
  case sound =>
    rw [closed.registry]
    exact h.sound
  case known =>
    intro i x has k known
    rw [closed.drawn]
    exact h.known (fewer has) k known
  case apart =>
    intro i j x y different hi hj
    exact h.apart different (fewer hi) (fewer hj)
  case memory =>
    intro i x has
    exact h.memory (fewer has)
  case supplied =>
    intro i x has
    have supplied := h.supplied (fewer has)
    rw [mode]
    cases kind : r.memory with
    | none =>
      rw [kind] at supplied
      exact supplied
    | shared memory =>
      rw [kind] at supplied
      exact supplied
    | perSession plan =>
      rw [kind] at supplied
      intro store hs
      exact (supplied store hs).later (closed.kinds _)
  case separate =>
    intro plan perSession i j x y different hi hj
    rw [mode] at perSession
    exact h.separate perSession different (fewer hi) (fewer hj)

theorem Settled.elsewhere (h : r.Settled drawn w) (sound : w'.registry.Sound) (stores : w'.stores = w.stores)
    (folder : w'.folder = w.folder) (grown : drawn w.outside <+: drawn w'.outside) : r.Settled drawn w' := by
  have spared : w.Spares (fun _ _ _ => ()) (fun _ => True) w' := World.spares_of_stores stores folder fun _ _ => rfl
  constructor
  case independent => exact h.independent
  case places =>
    rw [stores]
    exact h.places
  case tidy => exact h.tidy.later spared grown fun _ _ => trivial
  case sound => exact sound
  case known =>
    intro i x has k known
    exact grown.subset (h.known has k known)
  case apart => exact h.apart
  case memory => exact h.memory
  case supplied =>
    intro i x has
    exact (h.supplied has).later spared
  case separate => exact h.separate

theorem Settled.replan (h : r.Settled drawn w) {plan : StorePlan} (inside : plan.Inside) :
    (r.replan plan).Settled drawn w := by
  constructor
  case independent =>
    rw [memory_replan]
    exact h.independent.replan inside
  case places =>
    intro memory shared
    rw [memory_replan, MemoryMode.replan_eq_shared] at shared
    exact h.places memory shared
  case tidy => exact h.tidy
  case sound => exact h.sound
  case known =>
    intro i x has
    rw [session?_replan] at has
    exact h.known has
  case apart =>
    intro i j x y different hi hj
    rw [session?_replan] at hi hj
    exact h.apart different hi hj
  case memory =>
    intro i x has
    rw [session?_replan] at has
    exact h.memory has
  case supplied =>
    intro i x has
    rw [session?_replan] at has
    rw [memory_replan]
    exact (h.supplied has).replan plan
  case separate =>
    intro later own i j x y different hi hj
    rw [memory_replan] at own
    obtain ⟨earlier, was⟩ := MemoryMode.perSession_of_replan own
    rw [session?_replan] at hi hj
    exact h.separate was different hi hj

/-- With the session of the id the stores may be closed that it has for itself. -/
structure Finishes (drawn : σ → List ChatId) (id : String) (r : Reception) (w : World σ) (r' : Reception)
    (w' : World σ) : Prop where
  mode : r'.memory = r.memory
  sessions : ∀ j, r'.session? j = if j = id then none else r.session? j
  closes : w' = w ∨ ∃ s plan, r.session? id = some s ∧ r.memory = .perSession plan ∧ w.Closes drawn s.memory.list w'

theorem Finishes.absent (has : r.session? id = none) : Finishes drawn id r w r w := by
  refine ⟨rfl, fun j => ?_, Or.inl rfl⟩
  by_cases here : j = id <;> simp [here, has]

theorem Finishes.closed (hd : out.Draws drawn) {s : Held} (has : r.session? id = some s) (mode : r'.memory = r.memory)
    (sessions : ∀ j, r'.session? j = if j = id then none else r.session? j)
    (closed : r.memory.closeSession out s.memory deadline w = (some (), w')) : Finishes drawn id r w r' w' := by
  refine ⟨mode, sessions, ?_⟩
  rcases MemoryMode.closes_closeSession hd closed with same | ⟨⟨plan, perSession⟩, closes⟩
  · exact Or.inl same
  · exact Or.inr ⟨s, plan, has, perSession, closes⟩

theorem endSession_finishes (hd : out.Draws drawn) {ended : Bool}
    (run : r.endSession out id deadline w = (some (ended, r'), w')) : Finishes drawn id r w r' w' := by
  cases r with
  | desk d =>
    obtain ⟨⟨b, d'⟩, w₁, done, same⟩ := bind_eq_some.mp run
    cases same
    unfold Desk.endSession at done
    cases has : d.sessions.get? id with
    | none =>
      rw [has] at done
      cases done
      exact .absent (by simp [session?, has])
    | some s =>
      rw [has] at done
      obtain ⟨_, w₂, closed, same⟩ := bind_eq_some.mp done
      cases same
      refine .closed hd (s := .desk s) (by simp [session?, has]) rfl (fun j => ?_) closed
      simp only [session?, Table.get?_erase]
      by_cases here : j = id <;> simp [here]
  | single m =>
    obtain ⟨⟨b, m'⟩, w₁, done, same⟩ := bind_eq_some.mp run
    cases same
    unfold ChatManager.endSession at done
    cases has : m.sessions.get? id with
    | none =>
      rw [has] at done
      cases done
      exact .absent (by simp [session?, has])
    | some c =>
      rw [has] at done
      obtain ⟨_, w₂, closed, same⟩ := bind_eq_some.mp done
      cases same
      refine .closed hd (s := .single c) (by simp [session?, has]) rfl (fun j => ?_) closed
      simp only [session?, Table.get?_erase]
      by_cases here : j = id <;> simp [here]

theorem shutdown_closes (hd : out.Draws drawn) (run : r.shutdown out deadline w = (some r', w')) :
    r'.memory = r.memory ∧ (∀ j, r'.session? j = none) ∧ ∃ ids, w.Closes drawn ids w' := by
  cases r with
  | desk d =>
    obtain ⟨d', w₁, done, same⟩ := bind_eq_some.mp run
    cases same
    obtain ⟨_, w₂, closed, same⟩ := bind_eq_some.mp done
    cases same
    exact ⟨rfl, fun _ => rfl, MemoryMode.closes_close hd closed⟩
  | single m =>
    obtain ⟨m', w₁, done, same⟩ := bind_eq_some.mp run
    cases same
    obtain ⟨_, w₂, closed, same⟩ := bind_eq_some.mp done
    cases same
    exact ⟨rfl, fun _ => rfl, MemoryMode.closes_close hd closed⟩

theorem Settled.finishes (h : r.Settled drawn w) (done : Finishes drawn id r w r' w') : r'.Settled drawn w' := by
  have fewer {i : String} {x : Held} (has : r'.session? i = some x) : r.session? i = some x := by
    rw [done.sessions] at has
    split at has
    · cases has
    · exact has
  rcases done.closes with same | ⟨s, plan, -, -, closes⟩
  · have closes : w.Closes drawn [] w := .refl w
    rw [same]
    exact h.fewer done.mode fewer closes
  · exact h.fewer done.mode fewer closes

/-! ## All that is reached -/

def InCourse (out : Outside σ) (w : World σ) : Reception → Prop
  | desk d => ∃ log, Desk.Course out d w log
  | single _ => True

namespace InCourse

theorem opened (vacant : r.Vacant) (w : World σ) : r.InCourse out w := by
  cases r with
  | desk d => exact ⟨_, .opened vacant⟩
  | single m => trivial

theorem message {reply : String} (h : r.InCourse out w)
    (done : r.process out id text deadline w = (some (reply, r'), w')) : r'.InCourse out w' := by
  cases r with
  | desk d =>
    obtain ⟨log, course⟩ := h
    obtain ⟨⟨answer, d₁⟩, w₂, processed, same⟩ := bind_eq_some.mp done
    cases same
    obtain ⟨⟨routed, d₂⟩, w₃, ran, same⟩ := bind_eq_some.mp processed
    cases same
    exact ⟨_, course.message ran⟩
  | single m =>
    obtain ⟨⟨answer, m₁⟩, w₂, processed, same⟩ := bind_eq_some.mp done
    cases same
    trivial

theorem ended {b : Bool} (h : r.InCourse out w)
    (done : r.endSession out id deadline w = (some (b, r'), w')) : r'.InCourse out w' := by
  cases r with
  | desk d =>
    obtain ⟨log, course⟩ := h
    obtain ⟨⟨answer, d₁⟩, w₂, finished, same⟩ := bind_eq_some.mp done
    cases same
    exact ⟨_, course.ended finished⟩
  | single m =>
    obtain ⟨⟨answer, m₁⟩, w₂, finished, same⟩ := bind_eq_some.mp done
    cases same
    trivial

theorem shutdown (h : r.InCourse out w) (done : r.shutdown out deadline w = (some r', w')) : r'.InCourse out w' := by
  cases r with
  | desk d =>
    obtain ⟨log, course⟩ := h
    obtain ⟨d₁, w₂, finished, same⟩ := bind_eq_some.mp done
    cases same
    exact ⟨_, course.shutdown finished⟩
  | single m =>
    obtain ⟨m₁, w₂, finished, same⟩ := bind_eq_some.mp done
    cases same
    trivial

theorem configured (h : r.InCourse out w) (ds : List Specialist) :
    r.InCourse out { w with registry := w.registry.configure ds } := by
  cases r with
  | desk d =>
    obtain ⟨log, course⟩ := h
    exact ⟨log, course.configured ds⟩
  | single m => trivial

theorem equipped (h : r.InCourse out w) (role : String) (tools : Toolbox) :
    r.InCourse out { w with registry := w.registry.setTools role tools } := by
  cases r with
  | desk d =>
    obtain ⟨log, course⟩ := h
    exact ⟨log, course.equipped role tools⟩
  | single m => trivial

theorem replanned (h : r.InCourse out w) (plan : StorePlan) : (r.replan plan).InCourse out w := by
  cases r with
  | desk d =>
    obtain ⟨log, course⟩ := h
    exact ⟨log, course.replanned plan⟩
  | single m => trivial

theorem elsewhere (h : r.InCourse out w) (steady : w.Steady w') : r.InCourse out w' := by
  cases r with
  | desk d =>
    obtain ⟨log, course⟩ := h
    exact ⟨log, course.elsewhere steady⟩
  | single m => trivial

theorem named (h : r.InCourse out w) (id : String) (deadline : Option Nat) : r.Named out deadline id w := by
  cases r with
  | desk d =>
    obtain ⟨log, course⟩ := h
    intro s d₁ w₁ opens
    exact (course.coherent_opened opens).named
  | single m => trivial

end InCourse

theorem Reached.inCourse (h : Reached out drawn r w) : r.InCourse out w := by
  induction h with
  | opened vacant => exact .opened vacant _
  | message _ done ih => exact ih.message done
  | ended _ done ih => exact ih.ended done
  | shutdown _ done ih => exact ih.shutdown done
  | configured _ ds ih => exact ih.configured ds
  | equipped _ role tools ih => exact ih.equipped role tools
  | @replanned _ _ plan _ _ ih => exact ih.replanned plan
  | elsewhere _ registry _ _ _ ih => exact ih.elsewhere (World.Steady.of_eq registry)

theorem Reached.named (h : Reached out drawn r w) (id : String) (deadline : Option Nat) : r.Named out deadline id w :=
  h.inCourse.named id deadline

theorem Vacant.session? (vacant : r.Vacant) (id : String) : r.session? id = none := by
  cases r <;> simp [Vacant] at vacant <;> simp [Reception.session?, vacant, Table.get?]

theorem Vacant.settled (vacant : r.Vacant) (independent : r.memory.Independent)
    (places : ∀ memory, r.memory = .shared memory → ∀ store ∈ memory.list, store.place < w.stores.length)
    (tidy : w.Tidy drawn) (sound : w.registry.Sound) : r.Settled drawn w := by
  have nobody {i : String} {x : Held} (has : r.session? i = some x) : False := by
    rw [vacant.session? i] at has
    cases has
  constructor
  case independent => exact independent
  case places => exact places
  case tidy => exact tidy
  case sound => exact sound
  case known => exact fun has => (nobody has).elim
  case apart => exact fun _ has => (nobody has).elim
  case memory => exact fun has => (nobody has).elim
  case supplied => exact fun has => (nobody has).elim
  case separate => exact fun _ _ _ _ _ _ has => (nobody has).elim

theorem Reached.settled (hd : out.Draws drawn) (h : Reached out drawn r w) (once : (drawn w.outside).Nodup) :
    r.Settled drawn w := by
  -- Along all that has happened. Nothing was drawn twice before if nothing is drawn twice in the end.
  induction h with
  | opened vacant independent places tidy sound => exact vacant.settled independent places tidy sound
  | @message r w deadline id text reply r' w' before done ih =>
    have named := before.named id deadline
    have grown : drawn w.outside <+: drawn (r.process out id text deadline w).2.outside := drawn_process hd
    rw [done] at grown
    exact (ih (once.sublist grown.sublist)).message hd named done once
  | @ended r w deadline id b r' w' before done ih =>
    have finishes := endSession_finishes hd done
    have same : drawn w'.outside = drawn w.outside := by
      rcases finishes.closes with same | ⟨s, plan, -, -, closes⟩
      · rw [same]
      · exact closes.drawn
    rw [same] at once
    exact (ih once).finishes finishes
  | @shutdown r w deadline r' w' before done ih =>
    obtain ⟨mode, nobody, ids, closes⟩ := shutdown_closes hd done
    rw [closes.drawn] at once
    refine (ih once).fewer mode (fun {i x} has => ?_) closes
    rw [nobody] at has
    cases has
  | configured before ds ih =>
    exact (ih once).elsewhere (Registry.sound_configure _ ds) rfl rfl List.prefix_rfl
  | equipped before role tools ih =>
    have settled := ih once
    exact settled.elsewhere (settled.sound.setTools role tools) rfl rfl List.prefix_rfl
  | replanned before inside ih => exact (ih once).replan inside
  | elsewhere before registry stores folder grown ih =>
    have settled := ih (once.sublist grown.sublist)
    refine settled.elsewhere ?_ stores folder grown
    rw [registry]
    exact settled.sound

/-! ## What others keep -/

def Retains (view : Nat → ChatId → σ → β) (w w' : World σ) (h : Held) : Prop :=
  ∀ c ∈ h.chats, ∀ k, c.id = some k → ∀ store ∈ c.memory.list, w'.kept view store k = w.kept view store k

section
variable (hd : out.Draws drawn) (keeps : out.Keeps view) (reached : Reached out drawn r w)
include hd reached

include keeps in
/-- A message leaves the other sessions alone, also if it is not answered. -/
theorem Reached.process_others {result : Option (String × Reception)}
    (run : r.process out id text deadline w = (result, w')) (once : (drawn w'.outside).Nodup) :
    (∀ reply r', result = some (reply, r') → ∀ j, j ≠ id → r'.session? j = r.session? j) ∧
      ∀ j h, j ≠ id → r.session? j = some h → Retains view w w' h := by
  have named := reached.named id deadline
  have grown : drawn w.outside <+: drawn (r.process out id text deadline w).2.outside := drawn_process hd
  rw [run] at grown
  have settled := reached.settled hd (once.sublist grown.sublist)
  obtain ⟨spared, served⟩ := settled.serves hd keeps named run once
  constructor
  · intro reply r' some j other
    obtain ⟨s, serves⟩ := served reply r' some
    exact serves.others j other
  · intro j h other has c hc k known store hs
    have foreign : r.Foreign drawn id w' k := Or.inr ⟨j, h, other, has, c, hc, known⟩
    rw [settled.memory has c hc] at hs
    exact spared.kept_eq foreign (settled.inside has hs)

theorem Reached.endSession_others (once : (drawn w.outside).Nodup) {ended : Bool}
    (run : r.endSession out id deadline w = (some (ended, r'), w')) :
    (∀ j, j ≠ id → r'.session? j = r.session? j) ∧
      ∀ j h, j ≠ id → r.session? j = some h → Retains view w w' h := by
  have settled := reached.settled hd once
  have finishes := endSession_finishes hd run
  constructor
  · intro j other
    rw [finishes.sessions, if_neg other]
  · intro j h other has c hc k known store hs
    rcases finishes.closes with same | ⟨s, plan, had, mode, closes⟩
    · rw [same]
    · rw [settled.memory has c hc] at hs
      have own := settled.supplied had
      rw [mode] at own
      refine closes.kept_eq own (fun id' hid => ?_) k
      exact settled.separate mode (Ne.symm other) had has id' hid store hs

end

theorem answers_endSession (out : Outside σ) (r : Reception) (id : String) : Answers (r.endSession out id) := by
  have closed (mode : MemoryMode) (memory : Adapters) : Answers (mode.closeSession out memory) := by
    cases mode with
    | none | shared => exact answers_pure _
    | perSession => exact fun _ w => ⟨(), _, rfl⟩
  cases r with
  | desk d =>
    refine answers_bind ?_ fun _ => answers_pure _
    unfold Desk.endSession
    split
    · exact answers_pure _
    · exact answers_bind (closed _ _) fun _ => answers_pure _
  | single m =>
    refine answers_bind ?_ fun _ => answers_pure _
    unfold ChatManager.endSession
    split
    · exact answers_pure _
    · exact answers_bind (closed _ _) fun _ => answers_pure _

end

end Reception

end Concierge
