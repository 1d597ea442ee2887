import Concierge.Proofs.Handoff.Course
import Concierge.Proofs.Provider

/-!
# The eras of a desk

Each change of the registry begins a new era. In an era the log of a session holds how messages have
passed through it: whatever was routed before the last change, or before the session began, is not in
the log.
-/

namespace Concierge

open Run DeskSession

variable {σ : Type}

/-- How a message passed through a session: the turns that handed it on and the one that did not, which
is missing if there were no hops left for it. -/
structure Passage where
  handedOn : List Dispatch
  answered : Option Dispatch

namespace Passage

def turns (p : Passage) : List Dispatch := p.handedOn ++ p.answered.toList

def handedOnIn (l : List Passage) : List Dispatch := l.flatMap handedOn

def turnsIn (l : List Passage) : List Dispatch := l.flatMap turns

theorem handedOnIn_concat (l : List Passage) (p : Passage) :
    handedOnIn (l ++ [p]) = handedOnIn l ++ p.handedOn := by
  simp [handedOnIn]

theorem turnsIn_concat (l : List Passage) (p : Passage) : turnsIn (l ++ [p]) = turnsIn l ++ p.turns := by
  simp [turnsIn]

end Passage

namespace DeskSession

inductive Takes (out : Outside σ) (message : String) (deadline : Option Nat) (s : DeskSession) (w : World σ) :
    Passage → DeskSession → World σ → Prop
  | spent {ds s₁ w₁} (passes : Passes out message deadline s w ds s₁ w₁) :
      Takes out message deadline s w ⟨ds, none⟩ { s₁ with speaker := .coordinator } w₁
  | answered {ds s₁ w₁ d s₂ w₂ w₃} (passes : Passes out message deadline s w ds s₁ w₁)
      (hop : Hop out message deadline s₁ w₁ d s₂ w₂)
      (stays : Stays out deadline s₂ w₂ d.turn.outcome.signal w₃) :
      Takes out message deadline s w ⟨ds, some d⟩ s₂ w₃

section
variable {out : Outside σ} {message : String} {deadline : Option Nat} {s s₁ : DeskSession} {w w₁ : World σ}

theorem Ends.takes {hops : Nat} {r : Routed} (h : Ends out message deadline hops s w (some (r, s₁)) w₁) :
    ∃ p, r.dispatches = p.turns ∧ Takes out message deadline s w p s₁ w₁ := by
  cases h with
  | @spent ds _ _ passes _ => exact ⟨⟨ds, none⟩, by simp [Passage.turns], .spent passes⟩
  | @answered ds _ _ d _ _ _ passes _ hop stays _ => exact ⟨⟨ds, some d⟩, rfl, .answered passes hop stays⟩

theorem Takes.along {p : Passage} {R : World σ → World σ → Prop} (hR : DeskDrift out R)
    (h : Takes out message deadline s w p s₁ w₁) : R w w₁ := by
  cases h with
  | spent passes => exact passes.along hR
  | answered passes hop stays =>
    exact hR.trans (passes.along hR) (hR.trans (hop.along hR) (stays.along hR.toAgentDrift))

theorem Passes.generation_eq {ds : List Dispatch} (h : Passes out message deadline s w ds s₁ w₁) :
    s₁.generation = s.generation := by
  induction h with
  | nil => rfl
  | cons hop on _ ih => rw [ih, on.generation_eq, hop.generation_eq]

theorem Takes.generation_eq {p : Passage} (h : Takes out message deadline s w p s₁ w₁) :
    s₁.generation = s.generation := by
  cases h with
  | spent passes => exact passes.generation_eq
  | answered passes hop _ => rw [hop.generation_eq, passes.generation_eq]

end

end DeskSession

namespace Desk

/-- **The eras of a desk.** As in a course everything comes one after the other, but the logs begin anew
when the registry changes. What happens elsewhere leaves the registry steady and genuine. -/
inductive Era (out : Outside σ) : Desk → World σ → (String → List Passage) → Prop
  | opened {d w} (none : d.sessions = []) (genuine : w.registry.Genuine) : Era out d w fun _ => []
  | message {d w log id message deadline r d' w' s d₀ w₀ p s'} (before : Era out d w log)
      (routed : d.route out id message deadline w = (some (r, d'), w'))
      (opens : Opens out deadline d id w s d₀ w₀) (takes : Takes out message deadline s w₀ p s' w')
      (turns : r.dispatches = p.turns) (kept : d' = d₀.keep id s') :
      Era out d' w' (Function.update log id (log id ++ [p]))
  | ended {d w log id deadline ended d' w'} (before : Era out d w log)
      (done : d.endSession out id deadline w = (some (ended, d'), w')) :
      Era out d' w' (Function.update log id [])
  | shutdown {d w log deadline d' w'} (before : Era out d w log)
      (done : d.shutdown out deadline w = (some d', w')) : Era out d' w' fun _ => []
  | configured {d w log} (before : Era out d w log) (ds : List Specialist) :
      Era out d { w with registry := w.registry.configure ds } fun _ => []
  | equipped {d w log} (before : Era out d w log) (role : String) (tools : Toolbox) :
      Era out d { w with registry := w.registry.setTools role tools } fun _ => []
  | replanned {d w log} (before : Era out d w log) (plan : StorePlan) :
      Era out { d with memory := d.memory.replan plan } w log
  | elsewhere {d w log w'} (before : Era out d w log) (steady : w.Steady w')
      (genuine : w.registry.Genuine → w'.registry.Genuine) : Era out d w' log

section
variable {out : Outside σ} {deadline : Option Nat} {d d' : Desk} {id message : String} {w w' : World σ}
  {log : String → List Passage} {r : Routed}

theorem Era.course (h : Era out d w log) : ∃ entries, Course out d w entries := by
  induction h with
  | opened none _ => exact ⟨_, .opened none⟩
  | message _ routed _ _ _ _ ih =>
    obtain ⟨_, course⟩ := ih
    exact ⟨_, .message course routed⟩
  | ended _ done ih =>
    obtain ⟨_, course⟩ := ih
    exact ⟨_, .ended course done⟩
  | shutdown _ done ih =>
    obtain ⟨_, course⟩ := ih
    exact ⟨_, .shutdown course done⟩
  | configured _ ds ih =>
    obtain ⟨_, course⟩ := ih
    exact ⟨_, .configured course ds⟩
  | equipped _ role tools ih =>
    obtain ⟨_, course⟩ := ih
    exact ⟨_, .equipped course role tools⟩
  | replanned _ plan ih =>
    obtain ⟨_, course⟩ := ih
    exact ⟨_, .replanned course plan⟩
  | elsewhere _ steady _ ih =>
    obtain ⟨_, course⟩ := ih
    exact ⟨_, .elsewhere course steady⟩

theorem Era.route_eq_some (h : Era out d w log)
    (routed : d.route out id message deadline w = (some (r, d'), w')) :
    ∃ s d₁ w₁ s', Opens out deadline d id w s d₁ w₁ ∧
      Ends out message deadline maxHops s w₁ (some (r, s')) w' ∧ d' = d₁.keep id s' := by
  obtain ⟨_, course⟩ := h.course
  exact Desk.route_eq_some (fun opens => (course.coherent_opened opens).named) routed

theorem Era.routed (h : Era out d w log) (routed : d.route out id message deadline w = (some (r, d'), w')) :
    ∃ p, r.dispatches = p.turns ∧ Era out d' w' (Function.update log id (log id ++ [p])) := by
  obtain ⟨s, d₁, w₁, s', opens, ends, kept⟩ := h.route_eq_some routed
  obtain ⟨p, turns, takes⟩ := ends.takes
  exact ⟨p, turns, .message h routed opens takes turns kept⟩

theorem Era.genuine (h : Era out d w log) : w.registry.Genuine := by
  induction h with
  | opened _ genuine => exact genuine
  | message _ _ opens takes _ _ ih =>
    exact takes.along (genuine_deskDrift out) (opens.along (genuine_deskDrift out) ih)
  | ended _ done ih =>
    rw [(endSession_spec done).1]
    exact ih
  | shutdown _ done ih =>
    rw [(shutdown_spec done).1]
    exact ih
  | @configured _ w _ _ ds _ => exact w.registry.genuine_configure ds
  | equipped _ _ _ ih | replanned _ _ ih => exact ih
  | elsewhere _ _ genuine ih => exact genuine ih

theorem Era.log_nil (h : Era out d w log) (none : d.sessions.get? id = none) : log id = [] := by
  induction h with
  | opened _ _ | shutdown _ _ | configured _ _ | equipped _ _ _ => rfl
  | replanned _ _ ih | elsewhere _ _ _ ih => exact ih none
  | message _ _ opens _ _ kept ih =>
    rw [kept, opens.get?_keep] at none
    split at none
    · cases none
    · rename_i other
      rw [Function.update_of_ne other]
      exact ih none
  | @ended _ _ log j _ _ _ _ _ done ih =>
    rw [(endSession_spec done).2] at none
    by_cases same : id = j
    · rw [same, Function.update_self]
    · rw [if_neg same] at none
      rw [Function.update_of_ne same]
      exact ih none

end

end Desk

end Concierge
