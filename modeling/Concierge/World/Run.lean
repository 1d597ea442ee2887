import Concierge.World.Basic

/-!
# Running in the world

A run changes the world and answers, unless the deadline passes first: then it is cut off and leaves
the world as it was at that moment. `within` sets a deadline for a part of a run.
-/

namespace Concierge

/-- A run that answers with `α` before the deadline, if there is one. -/
def Run (σ α : Type) : Type := Option Nat → World σ → Option α × World σ

namespace Run

variable {σ α β : Type}

def pure (a : α) : Run σ α := fun _ w => (some a, w)

def bind (x : Run σ α) (f : α → Run σ β) : Run σ β := fun deadline w =>
  match x deadline w with
  | (some a, w) => f a deadline w
  | (none, w) => (none, w)

instance : Monad (Run σ) where
  pure := pure
  bind := bind

instance : LawfulMonad (Run σ) := LawfulMonad.mk' (Run σ)
  (fun x => by
    funext d w
    show Run.bind x _ d w = _
    unfold Run.bind
    rcases x d w with ⟨_ | a, w'⟩ <;> rfl)
  (fun a f => rfl)
  (fun x f g => by
    funext d w
    show Run.bind (Run.bind x f) g d w = Run.bind x (fun a => Run.bind (f a) g) d w
    unfold Run.bind
    rcases x d w with ⟨_ | a, w'⟩ <;> rfl)

def modifyGet (f : World σ → α × World σ) : Run σ α := fun _ w => (some (f w).1, (f w).2)

def get : Run σ (World σ) := fun _ w => (some w, w)

def modify (f : World σ → World σ) : Run σ Unit := fun _ w => (some (), f w)

def ask (f : σ → α × σ) : Run σ α :=
  modifyGet fun w => let (a, s) := f w.outside; (a, { w with outside := s })

/-- The clock at the deadline. -/
def expire (deadline : Option Nat) (w : World σ) : World σ :=
  { w with clock := deadline.getD w.clock }

def stall : Run σ α := fun deadline w => (none, expire deadline w)

def sleep (delay : Nat) : Run σ Unit := fun deadline w =>
  let late := match deadline with
    | some d => decide (d < w.clock + delay)
    | none => false
  if late then (none, expire deadline w) else (some (), { w with clock := w.clock + delay })

def await : Timed α → Run σ α
  | .after delay a => do sleep delay; return a
  | .never => stall

/-- Answer within some milliseconds, or with none. -/
def within (limit : Option Nat) (x : Run σ α) : Run σ (Option α) := fun deadline w =>
  match limit with
  | none =>
    match x deadline w with
    | (some a, w) => (some (some a), w)
    | (none, w) => (none, w)
  | some ms =>
    let own := w.clock + ms
    let sooner := match deadline with
      | some d => decide (d < own)
      | none => false
    match x (if sooner then deadline else some own) w with
    | (some a, w) => (some (some a), w)
    | (none, w) => if sooner then (none, w) else (some none, w)

end Run

end Concierge
