import Concierge.Proofs.Isolation.Others
import Mathlib.Data.List.Basic

/-!
# Stores are opened and closed

The stores that are opened for a session are new, open and of the kinds that were planned. To close some
stores closes these and no others and keeps all that they have stored; each store outside is called once
for every time that it is named, whatever becomes of the calls. Nothing that a message brings about closes a
store (`World.Doors`).
-/

namespace Concierge

open Run Memory

variable {σ β : Type}

/-! ## Open and closed -/

namespace Store

/-- The store is closed. Of one that is kept outside this cannot be seen. -/
def closed? : Store → Option Bool
  | memory s => some s.closed
  | file s => some (decide (s = .closed))
  | outside _ => none

def close : Store → Store
  | memory s => memory s.close
  | file _ => file .closed
  | outside key => outside key

@[simp] theorem kind_close (s : Store) : s.close.kind = s.kind := by cases s <;> rfl

@[simp] theorem closed?_close (s : Store) : s.close.closed? = s.closed?.map fun _ => true := by
  cases s <;> rfl

@[simp] theorem kind_ofKind (kind : StoreKind) : (ofKind kind).kind = kind := by cases kind <;> rfl

theorem closed?_ofKind (kind : StoreKind) : (ofKind kind).closed? ≠ some true := by cases kind <;> exact nofun

end Store

def StoreKind.key? : StoreKind → Option Nat
  | outside key => some key
  | _ => none

def Kept.opened : Kept β → Kept β
  | memory _ record => memory false record
  | file _ record => file false record
  | k => k

/-- There is a store for each track of the plan and for no other, as `R` has it. -/
structure StorePlan.Met (R : StoreId → StoreKind → Prop) (plan : StorePlan) (a : Adapters) : Prop where
  conversation : Option.Rel R a.conversation plan.conversation
  facts : Option.Rel R a.facts plan.facts
  summaries : Option.Rel R a.summaries plan.summaries

namespace StorePlan

variable {R R' : StoreId → StoreKind → Prop} {plan : StorePlan} {a : Adapters}

theorem rel_mono {x : Option StoreId} {y : Option StoreKind} (h : Option.Rel R x y)
    (weaker : ∀ id kind, R id kind → R' id kind) : Option.Rel R' x y := by
  cases h with
  | none => exact .none
  | some holds => exact .some (weaker _ _ holds)

theorem Met.mono (h : plan.Met R a) (weaker : ∀ id kind, R id kind → R' id kind) : plan.Met R' a :=
  ⟨rel_mono h.conversation weaker, rel_mono h.facts weaker, rel_mono h.summaries weaker⟩

theorem Met.of_mem (h : plan.Met R a) {id : StoreId} (hid : id ∈ a.list) : ∃ kind, R id kind := by
  have track {x : Option StoreId} {y : Option StoreKind} (h : Option.Rel R x y) (here : x = some id) :
      ∃ kind, R id kind := by
    cases h with
    | none => cases here
    | some holds =>
      cases here
      exact ⟨_, holds⟩
  simp only [Adapters.list, List.mem_append, Option.mem_toList] at hid
  rcases hid with (one | two) | three
  · exact track h.conversation one
  · exact track h.facts two
  · exact track h.summaries three

end StorePlan

/-- A list of the calls to close a store outside. Nothing else adds to it. -/
structure Outside.LogsCloses (out : Outside σ) (calls : σ → List Nat) : Prop where
  closeStore : ∀ key s, calls (out.closeStore key s).2 = calls s ++ [key]
  moves : ∀ {s o}, out.Moves s o → calls o = calls s
  access : ∀ {α : Type} key chat (op : Operation α) s, calls (out.access key chat op s).2 = calls s

/-- What the stores outside have of a chat stays when they are closed. -/
structure Outside.Outlasts (out : Outside σ) (view : Nat → ChatId → σ → β) : Prop extends out.Keeps view where
  closeStore : ∀ key s key' k, view key' k (out.closeStore key s).2 = view key' k s

/-! ## An outside with a list of the calls -/

namespace Outside

variable (out : Outside σ)

def logging : Outside (σ × List Nat) where
  createModel model s := ((out.createModel model s.1).1, (out.createModel model s.1).2, s.2)
  generate p r s := ((out.generate p r s.1).1, (out.generate p r s.1).2, s.2)
  callTool key args c s := ((out.callTool key args c s.1).1, (out.callTool key args c s.1).2, s.2)
  postedRoles s := out.postedRoles s.1
  send r s := ((out.send r s.1).1, (out.send r s.1).2, s.2)
  jitter s := ((out.jitter s.1).1, (out.jitter s.1).2, s.2)
  drawChatId s := ((out.drawChatId s.1).1, (out.drawChatId s.1).2, s.2)
  now s := ((out.now s.1).1, (out.now s.1).2, s.2)
  access key chat op s := ((out.access key chat op s.1).1, (out.access key chat op s.1).2, s.2)
  closeStore key s := ((out.closeStore key s.1).1, (out.closeStore key s.1).2, s.2 ++ [key])

theorem logsCloses_logging : out.logging.LogsCloses Prod.snd where
  closeStore _ _ := rfl
  moves moved := by cases moved <;> rfl
  access _ _ _ _ := rfl

variable {out}

theorem Draws.logging {drawn : σ → List ChatId} (hd : out.Draws drawn) : out.logging.Draws fun s => drawn s.1 where
  drawChatId s := hd.drawChatId s.1
  createModel model s := hd.createModel model s.1
  generate p r s := hd.generate p r s.1
  callTool key args c s := hd.callTool key args c s.1
  send r s := hd.send r s.1
  jitter s := hd.jitter s.1
  access key chat op s := hd.access key chat op s.1
  closeStore key s := hd.closeStore key s.1

end Outside

namespace World

def kind? (w : World σ) (store : StoreId) : Option StoreKind := (w.stores[store.place]?).map Store.kind

def closed? (w : World σ) (store : StoreId) : Option Bool := ((w.stores[store.place]?).map Store.closed?).join

def keys (w : World σ) (stores : List StoreId) : List Nat :=
  stores.filterMap fun store => (w.kind? store).bind StoreKind.key?

def SameRecords (view : Nat → ChatId → σ → β) (w w' : World σ) : Prop :=
  ∀ store k, (w'.kept view store k).opened = (w.kept view store k).opened

section
variable {w w' w'' : World σ} {store : StoreId} {stores : List StoreId}

theorem lt_of_kind? {kind : StoreKind} (h : w.kind? store = some kind) : store.place < w.stores.length := by
  obtain ⟨held, has, -⟩ := Option.map_eq_some_iff.mp h
  exact (List.getElem?_eq_some_iff.mp has).1

theorem keys_append (ids ids' : List StoreId) : w.keys (ids ++ ids') = w.keys ids ++ w.keys ids' :=
  List.filterMap_append

theorem keys_singleton (id : StoreId) : w.keys [id] = ((w.kind? id).bind StoreKind.key?).toList := by
  unfold keys
  rw [List.filterMap_cons, List.filterMap_nil]
  cases (w.kind? id).bind StoreKind.key? <;> rfl

theorem keys_congr (same : ∀ id ∈ stores, w'.kind? id = w.kind? id) : w'.keys stores = w.keys stores :=
  List.filterMap_congr fun id hid => by rw [same id hid]

end

/-! ## Nothing is closed -/

/-- The stores that there were are open or closed as before, and no call was made to close one outside. -/
structure Doors (calls : σ → List Nat) (w w' : World σ) : Prop where
  places : w.stores.length ≤ w'.stores.length
  kinds : ∀ {store : StoreId}, store.place < w.stores.length → w'.kind? store = w.kind? store
  closed : ∀ {store : StoreId}, store.place < w.stores.length → w'.closed? store = w.closed? store
  calls : calls w'.outside = calls w.outside

section
variable {calls : σ → List Nat} {w w' w'' : World σ}

theorem Doors.trans (h : w.Doors calls w') (h' : w'.Doors calls w'') : w.Doors calls w'' where
  places := Nat.le_trans h.places h'.places
  kinds inside := (h'.kinds (Nat.lt_of_lt_of_le inside h.places)).trans (h.kinds inside)
  closed inside := (h'.closed (Nat.lt_of_lt_of_le inside h.places)).trans (h.closed inside)
  calls := h'.calls.trans h.calls

theorem doors_of_stores (stores : w'.stores = w.stores) (same : calls w'.outside = calls w.outside) :
    w.Doors calls w' where
  places := by rw [stores]
  kinds _ := by rw [kind?, kind?, stores]
  closed _ := by rw [closed?, closed?, stores]
  calls := same

theorem doors_set {place : Nat} {held : Store} (held' : Store) (has : w.stores[place]? = some held)
    (kind : held'.kind = held.kind) (closed : held'.closed? = held.closed?)
    (stores : w'.stores = w.stores.set place held') (same : calls w'.outside = calls w.outside) :
    w.Doors calls w' := by
  have entry {α : Type} (f : Store → α) (agree : f held' = f held) (i : Nat) (inside : i < w.stores.length) :
      (w'.stores[i]?).map f = (w.stores[i]?).map f := by
    rw [stores]
    by_cases here : place = i
    · subst here
      rw [List.getElem?_set_self inside, has]
      exact congrArg some agree
    · rw [List.getElem?_set_ne here]
  constructor
  case places => simp [stores]
  case kinds =>
    intro store inside
    exact entry Store.kind kind store.place inside
  case closed =>
    intro store inside
    exact congrArg Option.join (entry Store.closed? closed store.place inside)
  case calls => exact same

theorem doors_access {α : Type} {out : Outside σ} (logs : out.LogsCloses calls) (store : StoreId) (chat : ChatId)
    (op : Operation α) (w : World σ) : w.Doors calls (access out store chat op w).2 := by
  unfold access
  cases has : w.stores[store.place]? with
  | none => exact doors_of_stores rfl rfl
  | some held =>
    cases held with
    | memory s =>
      refine doors_set (.memory (s.perform chat op).2) has rfl ?_ rfl rfl
      simp only [Store.closed?, s.closed_perform]
    | file s =>
      refine doors_set (.file (s.perform w.folder chat op).2.1) has rfl ?_ rfl rfl
      simp only [Store.closed?, s.closed_perform]
    | outside key => exact doors_of_stores rfl (logs.access key chat op _)

theorem doors_append (more : List Store) (stores : w'.stores = w.stores ++ more)
    (same : calls w'.outside = calls w.outside) : w.Doors calls w' where
  places := by simp [stores]
  kinds inside := by rw [kind?, kind?, stores, List.getElem?_append_left inside]
  closed inside := by rw [closed?, closed?, stores, List.getElem?_append_left inside]
  calls := same

/-! ## Stores are opened -/

def New (base : Nat) (w : World σ) (kind : StoreKind) (store : StoreId) : Prop :=
  base ≤ store.place ∧ w.stores[store.place]? = some (.ofKind kind)

variable {base : Nat} {plan : StorePlan}

theorem New.later {kind : StoreKind} {store : StoreId} (h : w.New base kind store) (more : w.stores <+: w'.stores) :
    w'.New base kind store := by
  obtain ⟨above, has⟩ := h
  obtain ⟨rest, stores⟩ := more
  refine ⟨above, ?_⟩
  rw [← stores, List.getElem?_append_left (List.getElem?_eq_some_iff.mp has).1]
  exact has

theorem New.kind?_eq {kind : StoreKind} {store : StoreId} (h : w.New base kind store) : w.kind? store = some kind := by
  rw [kind?, h.2, Option.map_some, Store.kind_ofKind]

theorem New.closed?_ne {kind : StoreKind} {store : StoreId} (h : w.New base kind store) :
    w.closed? store ≠ some true := by
  rw [closed?, h.2]
  exact Store.closed?_ofKind kind

theorem news_openTrack (kind : Option StoreKind) {opened : List (StoreKind × StoreId)} (above : base ≤ w.stores.length)
    (before : ∀ e ∈ opened, w.New base e.1 e.2) :
    w.stores <+: (openTrack kind opened w).2.2.stores ∧
      (∀ e ∈ (openTrack kind opened w).2.1, (openTrack kind opened w).2.2.New base e.1 e.2) ∧
      Option.Rel (fun id k => (openTrack kind opened w).2.2.New base k id) (openTrack kind opened w).1 kind := by
  cases kind with
  | none => exact ⟨List.prefix_rfl, before, .none⟩
  | some kind =>
    dsimp only [openTrack]
    unfold openStore
    cases found : Table.get? kind opened with
    | some id => exact ⟨List.prefix_rfl, before, .some (before _ (Table.mem_of_get? found))⟩
    | none =>
      have new : New base { w with stores := w.stores ++ [.ofKind kind] } kind ⟨w.stores.length⟩ :=
        ⟨above, List.getElem?_concat_length⟩
      refine ⟨List.prefix_append _ _, fun e he => ?_, .some new⟩
      rcases List.mem_append.mp he with old | last
      · exact (before e old).later (List.prefix_append _ _)
      · rw [List.mem_singleton] at last
        subst last
        exact new

/-- **New sessions have stores of their own.** They are opened as planned, in places that were free. -/
theorem news_openAll (plan : StorePlan) (w : World σ) :
    w.stores <+: (openAll plan w).2.stores ∧
      plan.Met (fun id kind => (openAll plan w).2.New w.stores.length kind id) (openAll plan w).1 := by
  rw [openAll_eq]
  dsimp only
  have none : ∀ e ∈ ([] : List (StoreKind × StoreId)), w.New w.stores.length e.1 e.2 := by simp
  obtain ⟨more, all, first⟩ := news_openTrack plan.conversation (Nat.le_refl w.stores.length) none
  generalize openTrack plan.conversation [] w = r at more all first
  obtain ⟨more', all', second⟩ := news_openTrack plan.facts more.length_le all
  generalize openTrack plan.facts r.2.1 r.2.2 = r' at more' all' second
  obtain ⟨more'', -, third⟩ := news_openTrack plan.summaries (more.trans more').length_le all'
  generalize openTrack plan.summaries r'.2.1 r'.2.2 = r'' at more'' third
  refine ⟨(more.trans more').trans more'', ?_, ?_, third⟩
  · exact StorePlan.rel_mono first fun id kind new => (new.later more').later more''
  · exact StorePlan.rel_mono second fun id kind new => new.later more''

theorem doors_openAll (plan : StorePlan) (w : World σ) : w.Doors calls (openAll plan w).2 := by
  obtain ⟨⟨more, stores⟩, -⟩ := news_openAll plan w
  exact doors_append more stores.symm (congrArg calls (outside_openAll plan w))

end

/-- **What a message brings about closes no store.** -/
theorem doors_deskDrift {out : Outside σ} {calls : σ → List Nat} (logs : out.LogsCloses calls) :
    DeskDrift out (Doors calls) where
  trans := Doors.trans
  clock _ _ := doors_of_stores rfl rfl
  outside _ _ moved := doors_of_stores rfl (logs.moves moved)
  facts store chat op _ _ := along_modifyGet (doors_access logs store chat op)
  record store chat m _ := along_modifyGet (doors_access logs store chat (.append m))
  addProvider _ _ := doors_of_stores rfl rfl
  addAgent _ _ _ _ := doors_of_stores rfl rfl
  setTask _ _ _ _ := doors_of_stores rfl rfl
  openStores plan := along_modifyGet (doors_openAll plan)

/-! ## Stores are closed -/

def closeEach (out : Outside σ) (ids : List StoreId) (w : World σ) : World σ :=
  ids.foldl (fun w id => closeStore out id w) w

section
variable (out : Outside σ) (w : World σ)

theorem closeEach_cons (id : StoreId) (ids : List StoreId) :
    closeEach out (id :: ids) w = closeEach out ids (closeStore out id w) := rfl

theorem getElem?_closeStore (id : StoreId) (place : Nat) : (closeStore out id w).stores[place]? =
    (w.stores[place]?).map fun s => if place = id.place then s.close else s := by
  by_cases here : id.place = place
  · subst here
    unfold closeStore
    cases has : w.stores[id.place]? with
    | none => simp [has]
    | some held =>
      have inside := (List.getElem?_eq_some_iff.mp has).1
      cases held with
      | memory | file => simp [Store.close, inside]
      | outside key => simp [has, Store.close]
  · simp only [Ne.symm here, ↓reduceIte, Option.map_id']
    unfold closeStore
    split
    · exact List.getElem?_set_ne here
    · exact List.getElem?_set_ne here
    · rfl
    · rfl

theorem getElem?_closeEach (ids : List StoreId) (place : Nat) : (closeEach out ids w).stores[place]? =
    (w.stores[place]?).map fun s => if place ∈ ids.map StoreId.place then s.close else s := by
  induction ids generalizing w with
  | nil => simp [closeEach]
  | cons id ids ih =>
    have twice (s : Store) : s.close.close = s.close := by cases s <;> rfl
    rw [closeEach_cons, ih, getElem?_closeStore, Option.map_map]
    congr 1
    funext s
    rw [Function.comp_apply, List.map_cons]
    by_cases here : place = id.place
    · rw [if_pos here, if_pos (List.mem_cons.mpr (Or.inl here)), twice, ite_self]
    · rw [if_neg here]
      simp only [List.mem_cons, here, false_or]

variable {out} {w}

@[simp] theorem kind?_closeEach (ids : List StoreId) (store : StoreId) :
    (closeEach out ids w).kind? store = w.kind? store := by
  rw [kind?, getElem?_closeEach, Option.map_map, kind?]
  congr 1
  funext s
  rw [Function.comp_apply, apply_ite Store.kind, Store.kind_close, ite_self]

theorem closed?_closeEach (ids : List StoreId) (store : StoreId) : (closeEach out ids w).closed? store =
    if store ∈ ids then (w.closed? store).map fun _ => true else w.closed? store := by
  have named : store.place ∈ ids.map StoreId.place ↔ store ∈ ids := by
    constructor
    · intro h
      obtain ⟨id, hid, same⟩ := List.mem_map.mp h
      cases id
      cases store
      cases same
      exact hid
    · exact List.mem_map_of_mem
  rw [closed?, closed?, getElem?_closeEach]
  simp only [named]
  cases w.stores[store.place]? with
  | none => simp
  | some s => by_cases h : store ∈ ids <;> simp [h]

@[simp] theorem keys_closeEach (ids stores : List StoreId) : (closeEach out ids w).keys stores = w.keys stores :=
  keys_congr fun id _ => kind?_closeEach ids id

theorem length_closeEach (ids : List StoreId) : (closeEach out ids w).stores.length = w.stores.length := by
  induction ids generalizing w with
  | nil => rfl
  | cons id ids ih =>
    rw [closeEach_cons, ih]
    unfold closeStore
    split <;> simp

/-- **Every store outside that is named is called**, whatever became of the calls before. -/
theorem calls_closeEach {calls : σ → List Nat} (logs : out.LogsCloses calls) (ids : List StoreId) :
    calls (closeEach out ids w).outside = calls w.outside ++ w.keys ids := by
  induction ids generalizing w with
  | nil => exact (List.append_nil _).symm
  | cons id ids ih =>
    have one : calls (closeStore out id w).outside = calls w.outside ++ w.keys [id] := by
      rw [keys_singleton, kind?]
      unfold closeStore
      cases w.stores[id.place]? with
      | none => exact (List.append_nil _).symm
      | some held =>
        cases held with
        | memory | file => exact (List.append_nil _).symm
        | outside key => exact logs.closeStore key w.outside
    have rest : (closeStore out id w).keys ids = w.keys ids := keys_closeEach [id] ids
    rw [closeEach_cons, ih, one, rest, List.append_assoc, ← keys_append, List.singleton_append]

/-- **What is stored stays when stores are closed.** -/
theorem sameRecords_closeEach {view : Nat → ChatId → σ → β} (outlasts : out.Outlasts view) (ids : List StoreId) :
    w.SameRecords view (closeEach out ids w) := by
  induction ids generalizing w with
  | nil => exact fun _ _ => rfl
  | cons id ids ih =>
    intro store k
    rw [closeEach_cons, ih]
    have folder : (closeStore out id w).folder = w.folder := by
      unfold closeStore
      split <;> rfl
    have outside (key : Nat) : view key k (closeStore out id w).outside = view key k w.outside := by
      unfold closeStore
      split
      · rfl
      · rfl
      · exact outlasts.closeStore _ _ _ _
      · rfl
    unfold kept
    rw [getElem?_closeStore, folder]
    cases w.stores[store.place]? with
    | none => rfl
    | some held =>
      cases held <;> by_cases here : store.place = id.place <;>
        simp [here, Store.close, InMemory.close, Kept.opened, outside]

end

end World

end Concierge
