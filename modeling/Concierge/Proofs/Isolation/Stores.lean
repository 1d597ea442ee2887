import Concierge.Proofs.Isolation.Own

/-!
# The stores of a session

Sessions that do not share their stores each open some of their own and close them when they end. Those
that are opened are new (`World.openAll_from`), and closing them changes no other store (`World.Closes`).
-/

namespace Concierge

open Run Memory

variable {σ β : Type}

/-! ## Opening and closing stores -/

/-- No store of the plan is kept outside, where sessions might share it. -/
def StorePlan.Inside (plan : StorePlan) : Prop :=
  ∀ kind, plan.conversation = some kind ∨ plan.facts = some kind ∨ plan.summaries = some kind →
    kind = .memory ∨ kind = .file

/-- The sessions share a store or each have some of their own. -/
def MemoryMode.Independent : MemoryMode → Prop
  | perSession plan => plan.Inside
  | none | shared _ => True

theorem MemoryMode.Independent.replan {mode : MemoryMode} {plan : StorePlan} (h : mode.Independent)
    (inside : plan.Inside) : (mode.replan plan).Independent := by
  cases mode with
  | none | shared _ => exact h
  | perSession _ => exact inside

namespace World

def OpenFrom (base : Nat) (w : World σ) (store : StoreId) : Prop :=
  base ≤ store.place ∧ ∃ held, w.stores[store.place]? = some held ∧ (held.kind = .memory ∨ held.kind = .file)

variable {base : Nat} {w w' : World σ} {store : StoreId}

theorem OpenFrom.lt (h : w.OpenFrom base store) : store.place < w.stores.length := by
  obtain ⟨-, held, has, -⟩ := h
  exact (List.getElem?_eq_some_iff.mp has).1

theorem OpenFrom.later (h : w.OpenFrom base store)
    (kinds : (w'.stores[store.place]?).map Store.kind = (w.stores[store.place]?).map Store.kind) :
    w'.OpenFrom base store := by
  obtain ⟨above, held, has, kind⟩ := h
  rw [has] at kinds
  obtain ⟨held', has', same⟩ := Option.map_eq_some_iff.mp kinds
  exact ⟨above, held', has', by rw [same]; exact kind⟩

theorem openStore_from {kind : StoreKind} (inside : kind = .memory ∨ kind = .file)
    {opened : List (StoreKind × StoreId)} (before : ∀ e ∈ opened, w.OpenFrom base e.2)
    (above : base ≤ w.stores.length) :
    (openStore kind opened w).2.2.OpenFrom base (openStore kind opened w).1 ∧
      ∀ e ∈ (openStore kind opened w).2.1, (openStore kind opened w).2.2.OpenFrom base e.2 := by
  unfold openStore
  cases found : Table.get? kind opened with
  | some id =>
    refine ⟨before (kind, id) ?_, before⟩
    exact Table.mem_of_get? found
  | none =>
    have new : OpenFrom base { w with stores := w.stores ++ [.ofKind kind] } ⟨w.stores.length⟩ := by
      refine ⟨above, .ofKind kind, List.getElem?_concat_length, ?_⟩
      rcases inside with rfl | rfl
      · exact Or.inl rfl
      · exact Or.inr rfl
    refine ⟨new, fun e he => ?_⟩
    rcases List.mem_append.mp he with old | last
    · have kept := before e old
      exact kept.later (by rw [List.getElem?_append_left kept.lt])
    · rw [List.mem_singleton] at last
      subst last
      exact new

theorem openTrack_from {kind : Option StoreKind} (inside : ∀ k, kind = some k → k = .memory ∨ k = .file)
    {opened : List (StoreKind × StoreId)} (before : ∀ e ∈ opened, w.OpenFrom base e.2)
    (above : base ≤ w.stores.length) :
    (∀ id, (openTrack kind opened w).1 = some id → (openTrack kind opened w).2.2.OpenFrom base id) ∧
      ∀ e ∈ (openTrack kind opened w).2.1, (openTrack kind opened w).2.2.OpenFrom base e.2 := by
  cases kind with
  | none =>
    refine ⟨fun id none => ?_, before⟩
    cases none
  | some kind =>
    obtain ⟨new, all⟩ := openStore_from (inside kind rfl) before above
    refine ⟨fun id same => ?_, all⟩
    cases same
    exact new

theorem length_openTrack (kind : Option StoreKind) (opened : List (StoreKind × StoreId)) (w : World σ) :
    w.stores.length ≤ (openTrack kind opened w).2.2.stores.length := by
  have spared : w.Spares (fun _ _ _ => ()) (fun _ => False) (openTrack kind opened w).2.2 :=
    spares_openTrack kind opened w
  exact spared.places

theorem OpenFrom.openTrack (h : w.OpenFrom base store) (kind : Option StoreKind)
    (opened : List (StoreKind × StoreId)) : (World.openTrack kind opened w).2.2.OpenFrom base store := by
  have spared : w.Spares (fun _ _ _ => ()) (fun _ => False) (World.openTrack kind opened w).2.2 :=
    spares_openTrack kind opened w
  exact h.later (spared.kinds h.lt)

theorem openAll_from {plan : StorePlan} (inside : plan.Inside) (w : World σ) :
    ∀ store ∈ (openAll plan w).1.list, (openAll plan w).2.OpenFrom w.stores.length store := by
  rw [openAll_eq]
  dsimp only
  have above := Nat.le_refl w.stores.length
  have none : ∀ e ∈ ([] : List (StoreKind × StoreId)), w.OpenFrom w.stores.length e.2 := by simp
  obtain ⟨first, all⟩ := openTrack_from (fun k has => inside k (Or.inl has)) none above
  have above₁ := above.trans (length_openTrack plan.conversation [] w)
  generalize World.openTrack plan.conversation [] w = r₁ at first all above₁
  obtain ⟨second, all₁⟩ := openTrack_from (fun k has => inside k (Or.inr (Or.inl has))) all above₁
  have kept := fun id same => (first id same).openTrack plan.facts r₁.2.1
  have above₂ := above₁.trans (length_openTrack plan.facts r₁.2.1 r₁.2.2)
  generalize World.openTrack plan.facts r₁.2.1 r₁.2.2 = r₂ at second all₁ kept above₂
  obtain ⟨third, -⟩ := openTrack_from (fun k has => inside k (Or.inr (Or.inr has))) all₁ above₂
  have kept₁ := fun id same => (kept id same).openTrack plan.summaries r₂.2.1
  have kept₂ := fun id same => (second id same).openTrack plan.summaries r₂.2.1
  generalize World.openTrack plan.summaries r₂.2.1 r₂.2.2 = r₃ at third kept₁ kept₂
  intro store hs
  simp only [Adapters.list, List.mem_append, Option.mem_toList] at hs
  rcases hs with (one | two) | three
  · exact kept₁ store one
  · exact kept₂ store two
  · exact third store three

structure Closes (drawn : σ → List ChatId) (ids : List StoreId) (w w' : World σ) : Prop where
  folder : w'.folder = w.folder
  registry : w'.registry = w.registry
  drawn : drawn w'.outside = drawn w.outside
  length : w'.stores.length = w.stores.length
  kinds : ∀ place : Nat, (w'.stores[place]?).map Store.kind = (w.stores[place]?).map Store.kind
  records : ∀ {place : Nat} {s' : InMemory}, w'.stores[place]? = some (.memory s') →
    ∃ s, w.stores[place]? = some (.memory s) ∧ s'.records = s.records
  elsewhere : ∀ {place : Nat}, (∀ id ∈ ids, id.place ≠ place) → w'.stores[place]? = w.stores[place]?
  outside : (∀ id ∈ ids, w.OpenFrom 0 id) → w'.outside = w.outside

variable {drawn : σ → List ChatId} {ids ids' : List StoreId} {w'' : World σ}

theorem Closes.refl (w : World σ) : w.Closes drawn ids w where
  folder := rfl
  registry := rfl
  drawn := rfl
  length := rfl
  kinds _ := rfl
  records has := ⟨_, has, rfl⟩
  elsewhere _ := rfl
  outside _ := rfl

theorem Closes.trans (h : w.Closes drawn ids w') (h' : w'.Closes drawn ids' w'') : w.Closes drawn (ids ++ ids') w'' where
  folder := h'.folder.trans h.folder
  registry := h'.registry.trans h.registry
  drawn := h'.drawn.trans h.drawn
  length := h'.length.trans h.length
  kinds place := (h'.kinds place).trans (h.kinds place)
  records has := by
    obtain ⟨s', has', same'⟩ := h'.records has
    obtain ⟨s, has, same⟩ := h.records has'
    exact ⟨s, has, same'.trans same⟩
  elsewhere others :=
    (h'.elsewhere fun id hid => others id (List.mem_append_right _ hid)).trans
      (h.elsewhere fun id hid => others id (List.mem_append_left _ hid))
  outside within := by
    refine (h'.outside fun id hid => ?_).trans (h.outside fun id hid => within id (List.mem_append_left _ hid))
    exact (within id (List.mem_append_right _ hid)).later (h.kinds _)

variable {out : Outside σ}

theorem closes_set {place : Nat} {id : StoreId} {held held' : Store} (here : id.place = place)
    (has : w.stores[place]? = some held) (kind : held'.kind = held.kind)
    (records : ∀ s', held' = .memory s' → ∃ s, held = .memory s ∧ s'.records = s.records) :
    w.Closes drawn [id] { w with stores := w.stores.set place held' } where
  folder := rfl
  registry := rfl
  drawn := rfl
  length := List.length_set
  kinds place' := by
    by_cases same : place = place'
    · subst same
      rw [List.getElem?_set_self (List.getElem?_eq_some_iff.mp has).1, has]
      exact congrArg some kind
    · rw [List.getElem?_set_ne same]
  records {place' s'} has' := by
    by_cases same : place = place'
    · subst same
      rw [List.getElem?_set_self (List.getElem?_eq_some_iff.mp has).1] at has'
      obtain ⟨s, was, same⟩ := records s' (Option.some.inj has')
      subst was
      exact ⟨s, has, same⟩
    · rw [List.getElem?_set_ne same] at has'
      exact ⟨s', has', rfl⟩
  elsewhere others := by
    have other := others id (List.mem_singleton_self id)
    rw [here] at other
    exact List.getElem?_set_ne other
  outside _ := rfl

theorem closes_closeStore (hd : out.Draws drawn) (id : StoreId) (w : World σ) :
    w.Closes drawn [id] (closeStore out id w) := by
  unfold closeStore
  cases has : w.stores[id.place]? with
  | none => exact .refl w
  | some held =>
    cases held with
    | memory s =>
      refine closes_set rfl has rfl fun s' same => ?_
      cases same
      exact ⟨s, rfl, rfl⟩
    | file s =>
      refine closes_set rfl has rfl fun s' same => ?_
      cases same
    | outside key =>
      refine ⟨rfl, rfl, hd.closeStore key _, rfl, fun _ => rfl, fun has => ⟨_, has, rfl⟩, fun _ => rfl, fun within => ?_⟩
      obtain ⟨-, held, has', kind⟩ := within id (List.mem_singleton_self id)
      rw [has] at has'
      cases has'
      rcases kind with kind | kind <;> cases kind

theorem closes_closeAll (hd : out.Draws drawn) (a : Adapters) (w : World σ) :
    w.Closes drawn a.list (closeAll out a w) := by
  unfold closeAll
  induction a.list generalizing w with
  | nil => exact .refl w
  | cons id ids ih => exact (closes_closeStore hd id w).trans (ih _)

end World

end Concierge
