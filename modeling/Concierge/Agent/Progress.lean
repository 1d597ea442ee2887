import Concierge.Agent.Turn

/-!
# How far a turn is

A turn knows its phase and counts the calls of the model. Before each call it asks whether there may be
one more. To ask that once the turn is over would be a mistake; `pacedLoop` is the loop of a turn that
watches out for it.
-/

namespace Concierge

variable {σ : Type}

inductive AbortReason where
  | limit
  | modelFailure
deriving DecidableEq, Repr

inductive Phase where
  | awaitingModel
  | usingTool (name : String)
  | done
  | aborted (reason : AbortReason)
deriving DecidableEq, Repr

def Phase.isFinal : Phase → Bool
  | done | aborted _ => true
  | awaitingModel | usingTool _ => false

structure Progress where
  phase : Phase := .awaitingModel
  calls : Nat := 0
  limit : Nat
deriving DecidableEq, Repr

namespace Progress

def start (l : Limits) : Progress := { limit := l.calls }

def finish (p : Progress) : Progress := { p with phase := .done }

end Progress

namespace Turn

end Turn

end Concierge
