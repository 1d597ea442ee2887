import Concierge.Proofs.Handoff.Session
import Mathlib.Logic.Function.Basic

/-!
# The courses of a desk

A desk is opened without sessions. From then on messages are routed and sessions end, the registry is
configured, new sessions get other stores, and whatever else happens in the world leaves the registry steady.
Beside the desk a course keeps a log of what was routed in each session since it began.
-/

namespace Concierge

open Run DeskSession

variable {σ : Type}

structure Entry where
  message : String
  routed : Routed

namespace Desk

/-! ## One message -/

/-- The session that a message finds: an old one or a new one, refreshed. -/
inductive Opens (out : Outside σ) (deadline : Option Nat) (d : Desk) (id : String) (w : World σ) :
    DeskSession → Desk → World σ → Prop
  | again {s s' w'} (has : d.sessions.get? id = some s)
      (refreshed : Refreshes out deadline s w s' w') : Opens out deadline d id w s' d w'
  | first {s w₁ s' w'} (new : d.sessions.get? id = none)
      (made : d.newSession out deadline w = (some s, w₁))
      (refreshed : Refreshes out deadline s w₁ s' w') :
      Opens out deadline d id w s' { d with sessions := d.sessions.put id s } w'

def keep (d : Desk) (id : String) (s : DeskSession) : Desk :=
  { d with sessions := d.sessions.put id s }

section
variable {out : Outside σ} {deadline : Option Nat} {d d' : Desk} {id : String} {w w' : World σ}
  {s : DeskSession}

theorem Opens.get?_keep (h : Opens out deadline d id w s d' w') (s' : DeskSession) (j : String) :
    (d'.keep id s').sessions.get? j = if j = id then some s' else d.sessions.get? j := by
  unfold keep
  rw [Table.get?_put]
  cases h with
  | again _ _ => rfl
  | first _ _ _ =>
    by_cases same : j = id
    · rw [if_pos same, if_pos same]
    · rw [if_neg same, if_neg same, Table.get?_put, if_neg same]

theorem Opens.refreshes {s₀ : DeskSession} (h : Opens out deadline d id w s d' w')
    (has : d.sessions.get? id = some s₀) : Refreshes out deadline s₀ w s w' := by
  cases h with
  | again has' refreshed =>
    rw [has] at has'
    cases has'
    exact refreshed
  | first new _ _ =>
    rw [has] at new
    cases new

theorem Opens.along {R : World σ → World σ → Prop} (hR : DeskDrift out R)
    (h : Opens out deadline d id w s d' w') : R w w' := by
  cases h with
  | again _ refreshed => exact refreshed.along hR.toAgentDrift
  | first _ made refreshed =>
    have begun := (along_newSession hR.toDrift hR.openStores d).of_run made
    exact hR.trans begun (refreshed.along hR.toAgentDrift)

theorem Opens.steady (h : Opens out deadline d id w s d' w') : w.Steady w' := h.along (steady_deskDrift out)

end

section
variable (out : Outside σ) (deadline : Option Nat) (d : Desk) (id message : String) (w : World σ)

theorem route_opens :
    ∃ s d' w', Opens out deadline d id w s d' w' ∧
      d.route out id message deadline w =
        (do let (r, s) ← s.route out message maxHops; return (r, d'.keep id s)) deadline w' := by
  unfold route session
  cases has : d.sessions.get? id with
  | some s =>
    obtain ⟨s', w', h, refreshed⟩ := refresh_run out deadline s w
    refine ⟨s', d, w', .again has refreshed, ?_⟩
    rw [bind_of_some (pure_run _)]
    dsimp only
    rw [bind_of_some h]
    rfl
  | none =>
    obtain ⟨s, w₁, made⟩ := answers_newSession out d deadline w
    obtain ⟨s', w', h, refreshed⟩ := refresh_run out deadline s w₁
    refine ⟨s', _, w', .first has made refreshed, ?_⟩
    rw [bind_of_some (bind_of_some made _)]
    dsimp only
    rw [bind_of_some h]
    rfl

end

section
variable {out : Outside σ} {deadline : Option Nat} {d d' : Desk} {id : String} {w w' : World σ}

theorem endSession_spec {ended : Bool}
    (h : d.endSession out id deadline w = (some (ended, d'), w')) :
    w'.registry = w.registry ∧ ∀ j, d'.sessions.get? j = if j = id then none else d.sessions.get? j := by
  unfold endSession at h
  cases has : d.sessions.get? id with
  | none =>
    rw [has] at h
    cases h
    refine ⟨rfl, fun j => ?_⟩
    by_cases same : j = id
    · rw [if_pos same, same, has]
    · rw [if_neg same]
  | some s =>
    rw [has] at h
    obtain ⟨_, w₁, closed, h⟩ := bind_eq_some.mp h
    cases h
    have same := (MemoryMode.closeSession_registry out d.memory s.memory).of_run closed
    exact ⟨same, fun j => Table.get?_erase j id d.sessions⟩

theorem shutdown_spec (h : d.shutdown out deadline w = (some d', w')) :
    w'.registry = w.registry ∧ d'.sessions = [] := by
  unfold shutdown at h
  obtain ⟨_, w₁, closed, h⟩ := bind_eq_some.mp h
  cases h
  have same := (MemoryMode.close_registry out d.memory _).of_run closed
  exact ⟨same, rfl⟩

end

/-! ## Many messages -/

/-- **The courses of a desk.** Everything that happens to it comes one after the other. -/
inductive Course (out : Outside σ) : Desk → World σ → (String → List Entry) → Prop
  | opened {d w} (none : d.sessions = []) : Course out d w fun _ => []
  | message {d w log id message deadline r d' w'} (before : Course out d w log)
      (routed : d.route out id message deadline w = (some (r, d'), w')) :
      Course out d' w' (Function.update log id (log id ++ [⟨message, r⟩]))
  | ended {d w log id deadline ended d' w'} (before : Course out d w log)
      (done : d.endSession out id deadline w = (some (ended, d'), w')) :
      Course out d' w' (Function.update log id [])
  | shutdown {d w log deadline d' w'} (before : Course out d w log)
      (done : d.shutdown out deadline w = (some d', w')) : Course out d' w' fun _ => []
  | configured {d w log} (before : Course out d w log) (ds : List Specialist) :
      Course out d { w with registry := w.registry.configure ds } log
  | equipped {d w log} (before : Course out d w log) (role : String) (tools : Toolbox) :
      Course out d { w with registry := w.registry.setTools role tools } log
  | replanned {d w log} (before : Course out d w log) (plan : StorePlan) :
      Course out { d with memory := d.memory.replan plan } w log
  | elsewhere {d w log w'} (before : Course out d w log) (steady : w.Steady w') : Course out d w' log

section
variable {out : Outside σ} {deadline : Option Nat} {d d' : Desk} {id message : String} {w w' : World σ}
  {log : String → List Entry} {s : DeskSession}

theorem route_eq_some {r : Routed} (named : ∀ {s d₁ w₁}, Opens out deadline d id w s d₁ w₁ → s.Named)
    (h : d.route out id message deadline w = (some (r, d'), w')) :
    ∃ s d₁ w₁ s', Opens out deadline d id w s d₁ w₁ ∧
      Ends out message deadline maxHops s w₁ (some (r, s')) w' ∧ d' = d₁.keep id s' := by
  obtain ⟨s, d₁, w₁, opens, run⟩ := route_opens out deadline d id message w
  rw [run] at h
  obtain ⟨⟨r', s'⟩, w₂, call, h⟩ := bind_eq_some.mp h
  have ends := route_ends out message deadline (named opens) maxHops w₁
  rw [call] at ends
  cases h
  exact ⟨s, d₁, w₁, s', opens, ends, rfl⟩

theorem Course.log_nil (h : Course out d w log) (none : d.sessions.get? id = none) : log id = [] := by
  induction h with
  | opened _ | shutdown _ _ => rfl
  | configured _ _ ih | equipped _ _ _ ih | replanned _ _ ih | elsewhere _ _ ih => exact ih none
  | message before routed ih =>
    obtain ⟨s, d₁, w₁, opens, run⟩ := route_opens out _ _ _ _ _
    rw [run] at routed
    obtain ⟨⟨r', s'⟩, w₂, -, done⟩ := bind_eq_some.mp routed
    cases done
    rw [opens.get?_keep] at none
    split at none
    · cases none
    · rename_i other
      rw [Function.update_of_ne other]
      exact ih none
  | @ended _ _ log j _ _ _ _ before done ih =>
    rw [(endSession_spec done).2] at none
    by_cases same : id = j
    · rw [same, Function.update_self]
    · rw [if_neg same] at none
      rw [Function.update_of_ne same]
      exact ih none

end

/-- A property of a session and its log that a new session has, and that refreshes and calls keep. -/
structure Lasting (out : Outside σ) (P : List Entry → DeskSession → Prop) : Prop where
  new : ∀ {d : Desk} {deadline w s w'}, d.newSession out deadline w = (some s, w') → P [] s
  refresh : ∀ {deadline l s w s' w'}, P l s → Refreshes out deadline s w s' w' → P l s'
  call : ∀ {message deadline l s w r s' w'}, P l s → s.Coherent w.registry →
    Ends out message deadline maxHops s w (some (r, s')) w' → P (l ++ [⟨message, r⟩]) s'

section
variable {out : Outside σ} {P : List Entry → DeskSession → Prop} (hP : Lasting out P)
  {deadline : Option Nat} {d d' : Desk} {id : String} {w w' : World σ} {log : String → List Entry}
  {s : DeskSession}
include hP

theorem Lasting.opens (held : ∀ id s, d.sessions.get? id = some s → s.Coherent w.registry ∧ P (log id) s)
    (none : d.sessions.get? id = none → log id = []) (h : Opens out deadline d id w s d' w') :
    s.Coherent w'.registry ∧ P (log id) s := by
  cases h with
  | again has refreshed =>
    obtain ⟨coherent, p⟩ := held _ _ has
    exact ⟨refreshed.coherent coherent, hP.refresh p refreshed⟩
  | first new made refreshed =>
    rw [none new]
    exact ⟨refreshed.coherent (newSession_coherent made), hP.refresh (hP.new made) refreshed⟩

theorem Course.holds (h : Course out d w log) :
    ∀ id s, d.sessions.get? id = some s → s.Coherent w.registry ∧ P (log id) s := by
  induction h with
  | opened none =>
    intro id s has
    rw [none] at has
    cases has
  | shutdown before done ih =>
    intro id s has
    rw [(shutdown_spec done).2] at has
    cases has
  | configured _ _ ih | equipped _ _ _ ih =>
    intro id s has
    obtain ⟨coherent, p⟩ := ih id s has
    exact ⟨coherent.later (Nat.lt_succ_self _), p⟩
  | replanned _ _ ih => exact ih
  | elsewhere before steady ih =>
    intro id s has
    obtain ⟨coherent, p⟩ := ih id s has
    exact ⟨coherent.steady steady, p⟩
  | @ended _ _ log i _ _ _ _ before done ih =>
    intro id s has
    obtain ⟨same, sessions⟩ := endSession_spec done
    rw [sessions] at has
    split at has
    · cases has
    · rename_i other
      obtain ⟨coherent, p⟩ := ih id s has
      rw [Function.update_of_ne other]
      exact ⟨coherent.steady (World.Steady.of_eq same), p⟩
  | @message d w log i m deadline r _ _ before routed ih =>
    intro id s has
    have opened : ∀ {s d₁ w₁}, Opens out deadline d i w s d₁ w₁ → s.Coherent w₁.registry ∧ P (log i) s :=
      hP.opens ih before.log_nil
    obtain ⟨s₁, d₁, w₁, s', opens, ends, rfl⟩ := route_eq_some (fun h => (opened h).1.named) routed
    rw [opens.get?_keep] at has
    -- The other sessions are as they were, and the call has left the registry steady for them.
    by_cases same : id = i
    · rw [if_pos same] at has
      cases has
      rw [same, Function.update_self]
      exact ⟨ends.coherent (opened opens).1, hP.call (opened opens).2 (opened opens).1 ends⟩
    · rw [if_neg same] at has
      rw [Function.update_of_ne same]
      obtain ⟨coherent, p⟩ := ih id s has
      exact ⟨coherent.steady (opens.steady.trans ends.steady), p⟩

theorem Course.holds_opened (h : Course out d w log) (opens : Opens out deadline d id w s d' w') :
    s.Coherent w'.registry ∧ P (log id) s :=
  hP.opens (h.holds hP) h.log_nil opens

end

theorem lasting_true (out : Outside σ) : Lasting out fun _ _ => True :=
  ⟨fun _ => trivial, fun _ _ => trivial, fun _ _ _ => trivial⟩

section
variable {out : Outside σ} {deadline : Option Nat} {d d' : Desk} {id : String} {w w' : World σ}
  {log : String → List Entry} {s : DeskSession}

theorem Course.coherent (h : Course out d w log) (has : d.sessions.get? id = some s) :
    s.Coherent w.registry := (h.holds (lasting_true out) id s has).1

theorem Course.coherent_opened (h : Course out d w log) (opens : Opens out deadline d id w s d' w') :
    s.Coherent w'.registry := (h.holds_opened (lasting_true out) opens).1

end

end Desk

end Concierge
