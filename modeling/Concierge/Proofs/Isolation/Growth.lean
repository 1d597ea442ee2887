import Concierge.Proofs.Isolation.Staff

/-!
# Names that are learnt on the way

A new chat is given an id, and a new session may be given stores of its own. So two runs that go on alike
learn more names as they go (`Comparison.Grows`). As long as no id is drawn twice, these are names of chats
that were not known before.
-/

namespace Concierge

open Run Memory

variable {σ τ : Type} {α α' β β' : Type}

namespace Comparison

/-- More names are known than before. Those that are new are of chats that were not drawn before. -/
structure Learnt (C : Comparison σ τ) (n : Names) (w : World σ) (w' : World τ) (n' : Names) (w₁ : World σ)
    (w₁' : World τ) : Prop extends n.Within n' where
  new : ∀ {k k'}, n'.chats k k' → n.chats k k' ∨ k ∉ C.drawn w.outside ∧ k' ∉ C.drawn' w'.outside
  grown : C.drawn w.outside <+: C.drawn w₁.outside
  grown' : C.drawn' w'.outside <+: C.drawn' w₁'.outside

/-- If no id is drawn twice then, up to more names, either both runs answer with what `V` allows or both are
cut off. -/
def Grows (C : Comparison σ τ) (n : Names) (V : Names → α → α' → Prop) (x : Run σ α) (y : Run τ α') : Prop :=
  ∀ d d' w w', Option.Rel (C.bond n).Abreast d d' → C.Worlds n w w' → (C.drawn (x d w).2.outside).Nodup →
    (C.drawn' (y d' w').2.outside).Nodup → ∃ n', C.Learnt n w w' n' (x d w).2 (y d' w').2 ∧
      C.Worlds n' (x d w).2 (y d' w').2 ∧ Option.Rel (V n') (x d w).1 (y d' w').1

variable {C : Comparison σ τ} {n n' n'' : Names} {w w₁ w₂ : World σ} {w' w₁' w₂' : World τ}
  {V : Names → α → α' → Prop} {U : Names → β → β' → Prop}

theorem Learnt.same (grown : C.drawn w.outside <+: C.drawn w₁.outside)
    (grown' : C.drawn' w'.outside <+: C.drawn' w₁'.outside) : C.Learnt n w w' n w₁ w₁' :=
  ⟨.refl n, Or.inl, grown, grown'⟩

theorem Learnt.trans (h : C.Learnt n w w' n' w₁ w₁') (h' : C.Learnt n' w₁ w₁' n'' w₂ w₂') :
    C.Learnt n w w' n'' w₂ w₂' := by
  refine ⟨h.toWithin.trans h'.toWithin, fun named => ?_, h.grown.trans h'.grown, h.grown'.trans h'.grown'⟩
  rcases h'.new named with known | ⟨undrawn, undrawn'⟩
  · exact h.new known
  · exact Or.inr ⟨fun drew => undrawn (h.grown.subset drew), fun drew => undrawn' (h.grown'.subset drew)⟩

/-! ## How such runs are put together -/

theorem grows_pure {a : α} {a' : α'} (h : V n a a') : C.Grows n V (Pure.pure a) (Pure.pure a') :=
  fun _ _ _ _ _ hw _ _ => ⟨n, .same List.prefix_rfl List.prefix_rfl, hw, .some h⟩

section
variable {x : Run σ α} {y : Run τ α'} {f : α → Run σ β} {g : α' → Run τ β'}

/-- If the first part teaches no names then the second part has to go on from the names that were there. -/
theorem grows_twin {W : α → α' → Prop} (h : (C.bond n).Twin W x y)
    (left : Along (fun w w₁ => C.drawn w.outside <+: C.drawn w₁.outside) x)
    (left' : Along (fun w w₁ => C.drawn' w.outside <+: C.drawn' w₁.outside) y)
    (next : ∀ a a', W a a' → C.Grows n U (f a) (g a')) : C.Grows n U (x >>= f) (y >>= g) := by
  intro d d' w w' hd hw once once'
  obtain ⟨answers, after⟩ := h d d' w w' hd hw
  have grown := left d w
  have grown' := left' d' w'
  rcases hx : x d w with ⟨_ | a, w₁⟩ <;> rcases hy : y d' w' with ⟨_ | a', w₁'⟩ <;>
    rw [hx, hy] at answers after <;> rw [hx] at grown <;> rw [hy] at grown'
  · rw [bind_of_none hx, bind_of_none hy]
    exact ⟨n, .same grown grown', after, .none⟩
  · cases answers
  · cases answers
  · rw [bind_of_some hx] at once ⊢
    rw [bind_of_some hy] at once' ⊢
    cases answers with
    | some related =>
      obtain ⟨n', learnt, rest⟩ := next a a' related d d' w₁ w₁' hd after once once'
      exact ⟨n', (Learnt.same grown grown').trans learnt, rest⟩

theorem grows_get {f : World σ → Run σ β} {g : World τ → Run τ β'}
    (next : ∀ w w', C.Worlds n w w' → C.Grows n U (f w) (g w')) : C.Grows n U (Run.get >>= f) (Run.get >>= g) :=
  grows_twin twin_get (fun _ _ => List.prefix_rfl) (fun _ _ => List.prefix_rfl) next

theorem grows_bind (h : C.Grows n V x y)
    (rest : ∀ a, Along (fun w w₁ => C.drawn w.outside <+: C.drawn w₁.outside) (f a))
    (rest' : ∀ a, Along (fun w w₁ => C.drawn' w.outside <+: C.drawn' w₁.outside) (g a))
    (next : ∀ {n' a a'}, n.Within n' → V n' a a' → C.Grows n' U (f a) (g a')) :
    C.Grows n U (x >>= f) (y >>= g) := by
  intro d d' w w' hd hw once once'
  -- What is drawn in the first part stays drawn, so nothing is drawn twice there either.
  have first := h d d' w w' hd hw
  rcases hx : x d w with ⟨_ | a, w₁⟩ <;> rcases hy : y d' w' with ⟨_ | a', w₁'⟩ <;> rw [hx, hy] at first
  · rw [bind_of_none hx] at once ⊢
    rw [bind_of_none hy] at once' ⊢
    obtain ⟨n₁, learnt, after, -⟩ := first once once'
    exact ⟨n₁, learnt, after, .none⟩
  · rw [bind_of_none hx] at once
    rw [bind_of_some hy] at once'
    obtain ⟨n₁, -, -, answers⟩ := first once (once'.sublist (rest' a' d' w₁').sublist)
    cases answers
  · rw [bind_of_some hx] at once
    rw [bind_of_none hy] at once'
    obtain ⟨n₁, -, -, answers⟩ := first (once.sublist (rest a d w₁).sublist) once'
    cases answers
  · rw [bind_of_some hx] at once ⊢
    rw [bind_of_some hy] at once' ⊢
    obtain ⟨n₁, learnt, after, answers⟩ :=
      first (once.sublist (rest a d w₁).sublist) (once'.sublist (rest' a' d' w₁').sublist)
    cases answers with
    | some related =>
      obtain ⟨n₂, learnt', onward⟩ := next learnt.toWithin related d d' w₁ w₁' hd after once once'
      exact ⟨n₂, learnt.trans learnt', onward⟩

end

/-! ## A chat id is drawn -/

theorem Worlds.draw (hC : C.Impartial) (h : C.Worlds n w w') (once : (C.drawn (C.out.drawChatId w.outside).2).Nodup)
    (once' : (C.drawn' (C.out'.drawChatId w'.outside).2).Nodup) :
    ((C.out.drawChatId w.outside).1 ∉ C.drawn w.outside ∧ (C.out'.drawChatId w'.outside).1 ∉ C.drawn' w'.outside) ∧
      C.Worlds { n with chats := addPair n.chats (C.out.drawChatId w.outside).1 (C.out'.drawChatId w'.outside).1 }
        { w with outside := (C.out.drawChatId w.outside).2 } { w' with outside := (C.out'.drawChatId w'.outside).2 } := by
  have drew := hC.draws.drawChatId w.outside
  have drew' := hC.draws'.drawChatId w'.outside
  have same (fresh : (C.out.drawChatId w.outside).1 ∉ C.drawn w.outside) :=
    hC.drawChatId h.outside fresh
  generalize C.out.drawChatId w.outside = x at once drew same ⊢
  generalize C.out'.drawChatId w'.outside = y at once' drew' same ⊢
  obtain ⟨k, o⟩ := x
  obtain ⟨k', o'⟩ := y
  dsimp only at once once' drew drew' same ⊢
  have fresh : k ∉ C.drawn w.outside := by
    intro known
    rw [drew] at once
    exact (List.nodup_append.mp once).2.2 k known k (List.mem_singleton_self k) rfl
  have fresh' : k' ∉ C.drawn' w'.outside := by
    intro known
    rw [drew'] at once'
    exact (List.nodup_append.mp once').2.2 k' known k' (List.mem_singleton_self k') rfl
  have untouched : w.Spares (fun _ _ _ => ()) (fun _ => True) { w with outside := o } :=
    World.spares_of_stores rfl rfl fun _ _ => rfl
  have untouched' : w'.Spares (fun _ _ _ => ()) (fun _ => True) { w' with outside := o' } :=
    World.spares_of_stores rfl rfl fun _ _ => rfl
  have tidy := h.tidy.later untouched ⟨_, drew.symm⟩ fun _ _ => trivial
  have tidy' := h.tidy'.later untouched' ⟨_, drew'.symm⟩ fun _ _ => trivial
  refine ⟨⟨fresh, fresh'⟩, ?_, h.sound, h.sound', tidy, tidy'⟩
  constructor
  case chats =>
    exact biUnique_addPair h.chats (fun j named => fresh (h.drawn named).1) fun j named => fresh' (h.drawn named).2
  case places => exact h.places
  case drawn =>
    intro j j' named
    rw [drew, drew']
    rcases named with old | ⟨rfl, rfl⟩
    · exact ⟨List.mem_append_left _ (h.drawn old).1, List.mem_append_left _ (h.drawn old).2⟩
    · simp
  case outside => exact same fresh fresh'
  case abreast => exact h.abreast
  case registries => exact h.registries
  case toolboxes => exact h.toolboxes
  -- Nothing is stored of a chat that is new on both sides, so folders and stores agree on it.
  case folders =>
    refine ⟨h.folders.blocked, h.folders.plan, fun hx => ?_⟩
    cases hx with
    | record named =>
      rcases named with old | ⟨rfl, rfl⟩
      · exact h.folders.nodes (.record old)
      · exact (h.tidy.records fresh).trans (h.tidy'.records fresh').symm
    | draft named =>
      rcases named with old | ⟨rfl, rfl⟩
      · exact h.folders.nodes (.draft old)
      · exact (h.tidy.drafts fresh).trans (h.tidy'.drafts fresh').symm
  case stores =>
    intro p p' hp
    obtain ⟨s, s', has, has', alike⟩ := h.stores hp
    refine ⟨s, s', has, has', ?_⟩
    cases alike with
    | memory alike =>
      refine .memory ⟨alike.closed, fun named => ?_⟩
      rcases named with old | ⟨rfl, rfl⟩
      · exact alike.records old
      · unfold InMemory.record
        rw [h.tidy.memory fresh has, h.tidy'.memory fresh' has']
    | file alike => exact .file alike
    | outside key => exact .outside key

theorem grows_draw (hC : C.Impartial) :
    C.Grows n (fun n' => n'.chats) (Run.ask C.out.drawChatId) (Run.ask C.out'.drawChatId) := by
  intro d d' w w' _ hw once once'
  obtain ⟨fresh, after⟩ := hw.draw hC once once'
  have grown : C.drawn w.outside <+: C.drawn (C.out.drawChatId w.outside).2 := ⟨_, (hC.draws.drawChatId _).symm⟩
  have grown' : C.drawn' w'.outside <+: C.drawn' (C.out'.drawChatId w'.outside).2 := ⟨_, (hC.draws'.drawChatId _).symm⟩
  refine ⟨{ n with chats := addPair n.chats (C.out.drawChatId w.outside).1 (C.out'.drawChatId w'.outside).1 },
    ⟨⟨Or.inl, id⟩, fun named => ?_, grown, grown'⟩, after, .some (Or.inr ⟨rfl, rfl⟩)⟩
  rcases named with old | ⟨rfl, rfl⟩
  · exact Or.inl old
  · exact Or.inr fresh

/-! ## Stores are opened -/

def Opened (n : Names) (os os' : List (StoreKind × StoreId)) : Prop :=
  List.Forall₂ (fun e e' => e.1 = e'.1 ∧ n.stores e.2 e'.2) os os'

theorem Opened.get? {os os' : List (StoreKind × StoreId)} (h : Opened n os os') (kind : StoreKind) :
    Option.Rel n.stores (Table.get? kind os) (Table.get? kind os') := by
  induction h with
  | nil => exact .none
  | @cons e e' os os' first _ ih =>
    obtain ⟨kind₁, p⟩ := e
    obtain ⟨kind₂, p'⟩ := e'
    obtain ⟨same, named⟩ := first
    dsimp only at same named
    subst same
    unfold Table.get?
    split
    · exact .some named
    · exact ih

theorem Worlds.openStore (h : C.Worlds n w w') (kind : StoreKind) :
    C.Worlds { n with stores := addPair n.stores ⟨w.stores.length⟩ ⟨w'.stores.length⟩ }
      { w with stores := w.stores ++ [.ofKind kind] } { w' with stores := w'.stores ++ [.ofKind kind] } := by
  -- The new stores have places behind all that have names.
  have inside {p p' : StoreId} (hp : n.stores p p') : p.place < w.stores.length ∧ p'.place < w'.stores.length := by
    obtain ⟨s, s', has, has', -⟩ := h.stores hp
    exact ⟨(List.getElem?_eq_some_iff.mp has).1, (List.getElem?_eq_some_iff.mp has').1⟩
  have untouched : w.Spares (fun _ _ _ => ()) (fun _ => True) { w with stores := w.stores ++ [.ofKind kind] } :=
    World.spares_openStore kind [] w
  have untouched' : w'.Spares (fun _ _ _ => ()) (fun _ => True) { w' with stores := w'.stores ++ [.ofKind kind] } :=
    World.spares_openStore kind [] w'
  have tidy := h.tidy.later untouched List.prefix_rfl fun _ _ => trivial
  have tidy' := h.tidy'.later untouched' List.prefix_rfl fun _ _ => trivial
  refine ⟨?_, h.sound, h.sound', tidy, tidy'⟩
  constructor
  case chats => exact h.chats
  case places =>
    refine biUnique_addPair h.places (fun q named => ?_) fun q named => ?_
    · exact Nat.lt_irrefl _ (inside named).1
    · exact Nat.lt_irrefl _ (inside named).2
  case drawn => exact h.drawn
  case outside => exact h.outside
  case abreast => exact h.abreast
  case registries => exact h.registries
  case toolboxes =>
    intro role
    exact (h.toolboxes role).mono Or.inl
  case folders => exact h.folders
  case stores =>
    intro p p' hp
    rcases hp with old | ⟨rfl, rfl⟩
    · obtain ⟨s, s', has, has', alike⟩ := h.stores old
      refine ⟨s, s', ?_, ?_, alike⟩
      · rw [List.getElem?_append_left (inside old).1]
        exact has
      · rw [List.getElem?_append_left (inside old).2]
        exact has'
    · refine ⟨.ofKind kind, .ofKind kind, List.getElem?_concat_length, List.getElem?_concat_length, ?_⟩
      cases kind with
      | memory => exact .memory ⟨rfl, fun _ => rfl⟩
      | file => exact .file .new
      | outside key => exact .outside key

section
variable {kind : StoreKind} {os : List (StoreKind × StoreId)}

theorem openTrack_again {p : StoreId} (h : Table.get? kind os = some p) :
    World.openTrack (some kind) os w = (some p, os, w) := by
  unfold World.openTrack
  dsimp only
  unfold World.openStore
  rw [h]

theorem openTrack_new (h : Table.get? kind os = none) :
    World.openTrack (some kind) os w = (some ⟨w.stores.length⟩, os ++ [(kind, ⟨w.stores.length⟩)],
      { w with stores := w.stores ++ [.ofKind kind] }) := by
  unfold World.openTrack
  dsimp only
  unfold World.openStore
  rw [h]

end

theorem Worlds.openTrack (h : C.Worlds n w w') (kind : Option StoreKind) {os os' : List (StoreKind × StoreId)}
    (opened : Opened n os os') :
    ∃ n', n.Within n' ∧ n'.chats = n.chats ∧
      Option.Rel n'.stores (World.openTrack kind os w).1 (World.openTrack kind os' w').1 ∧
      Opened n' (World.openTrack kind os w).2.1 (World.openTrack kind os' w').2.1 ∧
      C.Worlds n' (World.openTrack kind os w).2.2 (World.openTrack kind os' w').2.2 := by
  cases kind with
  | none => exact ⟨n, .refl n, rfl, .none, opened, h⟩
  | some kind =>
    have found := opened.get? kind
    rcases hx : Table.get? kind os with _ | p <;> rcases hy : Table.get? kind os' with _ | p' <;> rw [hx, hy] at found
    · rw [openTrack_new hx, openTrack_new hy]
      refine ⟨{ n with stores := addPair n.stores ⟨w.stores.length⟩ ⟨w'.stores.length⟩ }, ⟨id, Or.inl⟩, rfl,
        .some (Or.inr ⟨rfl, rfl⟩), ?_, h.openStore kind⟩
      refine List.rel_append ?_ (.cons ⟨rfl, Or.inr ⟨rfl, rfl⟩⟩ .nil)
      exact opened.imp fun _ _ same => ⟨same.1, Or.inl same.2⟩
    · cases found
    · cases found
    · rw [openTrack_again hx, openTrack_again hy]
      exact ⟨n, .refl n, rfl, found, opened, h⟩

theorem grows_openAll (hC : C.Impartial) (plan : StorePlan) :
    C.Grows n (fun n' m m' => m.Renamed n'.stores m') (.modifyGet (World.openAll plan))
      (.modifyGet (World.openAll plan)) := by
  intro d d' w w' _ hw _ _
  have grown := (drawn_deskDrift hC.draws).openStores plan d w
  have grown' := (drawn_deskDrift hC.draws').openStores plan d' w'
  rw [modifyGet_run, World.openAll_eq] at grown grown' ⊢
  rw [modifyGet_run, World.openAll_eq]
  obtain ⟨n₁, more₁, same₁, first, opened₁, after₁⟩ := hw.openTrack plan.conversation .nil
  obtain ⟨n₂, more₂, same₂, second, opened₂, after₂⟩ := after₁.openTrack plan.facts opened₁
  obtain ⟨n₃, more₃, same₃, third, -, after₃⟩ := after₂.openTrack plan.summaries opened₂
  refine ⟨n₃, ⟨(more₁.trans more₂).trans more₃, fun named => ?_, grown, grown'⟩, after₃, .some ⟨?_, ?_, third⟩⟩
  · rw [same₃, same₂, same₁] at named
    exact Or.inl named
  · exact rel_mono first fun _ _ named => more₃.stores (more₂.stores named)
  · exact rel_mono second fun _ _ named => more₃.stores named

end Comparison

end Concierge
