import Concierge.World.Run

/-!
# The stores of the world

An agent reaches its memory through `Adapters`, which name a store for each track. Tracks of the
same kind that are opened together share one store.
-/

namespace Concierge

open Memory

structure Adapters where
  conversation : Option StoreId := none
  facts : Option StoreId := none
  summaries : Option StoreId := none
deriving DecidableEq, Repr

def Adapters.isPersistent (a : Adapters) : Bool :=
  a.conversation.isSome || a.facts.isSome || a.summaries.isSome

def Adapters.list (a : Adapters) : List StoreId :=
  a.conversation.toList ++ a.facts.toList ++ a.summaries.toList

inductive StoreKind where
  | memory
  | file
  | outside (key : Nat)
deriving DecidableEq, Repr

structure StorePlan where
  conversation : Option StoreKind := none
  facts : Option StoreKind := none
  summaries : Option StoreKind := none
deriving DecidableEq, Repr

namespace Store

def ofKind : StoreKind → Store
  | .memory => .memory {}
  | .file => .file .uninitialized
  | .outside key => .outside key

end Store

namespace World

variable {σ α : Type}

def access (out : Outside σ) (id : StoreId) (chat : ChatId) (op : Operation α) (w : World σ) :
    Except MemoryError α × World σ :=
  match w.stores[id.place]? with
  | some (.memory s) =>
    let (a, s) := s.perform chat op
    (a, { w with stores := w.stores.set id.place (.memory s) })
  | some (.file s) =>
    let (a, s, f) := s.perform w.folder chat op
    (a, { w with stores := w.stores.set id.place (.file s), folder := f })
  | some (.outside key) =>
    let (a, o) := out.access key chat op w.outside
    (a, { w with outside := o })
  | none => (.error (.backend "no such store"), w)

/-- Close a store; a store that cannot be closed is left alone. -/
def closeStore (out : Outside σ) (id : StoreId) (w : World σ) : World σ :=
  match w.stores[id.place]? with
  | some (.memory s) => { w with stores := w.stores.set id.place (.memory s.close) }
  | some (.file _) => { w with stores := w.stores.set id.place (.file .closed) }
  | some (.outside key) => { w with outside := (out.closeStore key w.outside).2 }
  | none => w

def closeAll (out : Outside σ) (a : Adapters) (w : World σ) : World σ :=
  a.list.foldl (fun w id => closeStore out id w) w

/-- Open a store for a track unless one of that kind was opened along with it. -/
def openStore (kind : StoreKind) (opened : List (StoreKind × StoreId)) (w : World σ) :
    StoreId × List (StoreKind × StoreId) × World σ :=
  match Table.get? kind opened with
  | some id => (id, opened, w)
  | none =>
    let id : StoreId := ⟨w.stores.length⟩
    (id, opened ++ [(kind, id)], { w with stores := w.stores ++ [.ofKind kind] })

def openAll (plan : StorePlan) (w : World σ) : Adapters × World σ :=
  let one (kind : Option StoreKind) (opened : List (StoreKind × StoreId)) (w : World σ) :
      Option StoreId × List (StoreKind × StoreId) × World σ :=
    match kind with
    | none => (none, opened, w)
    | some kind => let (id, opened, w) := openStore kind opened w; (some id, opened, w)
  let (conversation, opened, w) := one plan.conversation [] w
  let (facts, opened, w) := one plan.facts opened w
  let (summaries, _, w) := one plan.summaries opened w
  (⟨conversation, facts, summaries⟩, w)

end World

def Run.access {σ α : Type} (out : Outside σ) (id : StoreId) (chat : ChatId)
    (op : Memory.Operation α) : Run σ (Except MemoryError α) :=
  .modifyGet (World.access out id chat op)

end Concierge
