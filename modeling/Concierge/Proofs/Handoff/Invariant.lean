import Concierge.Proofs.Handoff.Delivery

/-!
# What always holds of a session

Whoever is active is there to be asked, a result waits for the coordinator only, and specialists are
defined in the registry they were made from. A result is left to wait by one kind of call only: by one
that has used up its hops with a specialist's last word.
-/

namespace Concierge

open Run

variable {σ : Type}

namespace DeskSession

variable {out : Outside σ} {message : String} {deadline : Option Nat} {s s₁ : DeskSession}
  {w w₁ : World σ} {ds : List Dispatch} {p : Pending}

theorem Coherent.speaker_known {r : Registry} (h : s.Coherent r) {role : String}
    (active : s.speaker = .specialist role) : ∃ chat, lookupName role s.specialists = some chat :=
  lookupName_eq_some (h.named role active)

theorem Passes.pending_eq (h : Passes out message deadline s w ds s₁ w₁) (hs : s.Coherent w.registry)
    (ne : ds ≠ []) : ∃ x, ds.getLast? = some x ∧ x.accepted = s₁.pending := by
  induction h with
  | nil => exact absurd rfl ne
  | @cons s w d s₁ w₁ accepted s₂ w₂ ds s₃ w₃ hop on rest ih =>
    have empty := hop.pending_eq hs.waiting
    cases ds with
    | nil =>
      cases rest with
      | nil => exact ⟨_, rfl, (on.pending_eq empty).symm⟩
    | cons x xs =>
      obtain ⟨last, found, accepted⟩ := ih (on.coherent (hop.coherent hs) empty) (List.cons_ne_nil _ _)
      rw [List.getLast?_cons_cons]
      exact ⟨last, found, accepted⟩

theorem Ends.of_pending {hops : Nat} {r : Routed} (hops_pos : 0 < hops)
    (h : Ends out message deadline hops s w (some (r, s₁)) w₁) (hs : s.Coherent w.registry)
    (waits : s₁.pending = some p) :
    r.reply = Desk.handoffLimitText ∧ ∃ x, r.dispatches.getLast? = some x ∧
      x.receiver = .specialist p.role ∧ x.turn.outcome.signal = some (.handback p.result) := by
  cases h with
  | @spent ds s₁ w₁ passes all =>
    have ne : ds ≠ [] := by
      intro none
      rw [none] at all
      exact absurd all (Nat.ne_of_lt hops_pos)
    obtain ⟨x, found, accepted⟩ := passes.pending_eq hs ne
    have faithful := passes.faithful x (List.mem_of_getLast? found)
    exact ⟨rfl, x, found, (faithful.accepted p).mp (accepted.trans waits)⟩
  | answered passes _ hop _ _ =>
    rw [hop.pending_eq (passes.coherent hs).waiting] at waits
    cases waits

end DeskSession

namespace Desk

open DeskSession

/-- **Sessions are coherent at all times**, between messages and whenever a message reaches an agent;
and a result waits after a call only if the call was cut short behind a specialist's last word. -/
theorem sessions_coherent {out : Outside σ} {d : Desk} {w : World σ} {log : String → List Entry}
    (reached : Course out d w log) :
    (∀ id s, d.sessions.get? id = some s → s.Coherent w.registry) ∧
      (∀ id message deadline s d₀ w₀ ds s₁ w₁, Opens out deadline d id w s d₀ w₀ →
        Passes out message deadline s w₀ ds s₁ w₁ →
          s₁.Coherent w₁.registry ∧
            ∀ role, s₁.speaker = .specialist role → ∃ chat, lookupName role s₁.specialists = some chat) ∧
      ∀ id message deadline r d' w' s p,
        d.route out id message deadline w = (some (r, d'), w') → d'.sessions.get? id = some s →
          s.pending = some p →
            r.reply = handoffLimitText ∧ ∃ x, r.dispatches.getLast? = some x ∧
              x.receiver = .specialist p.role ∧ x.turn.outcome.signal = some (.handback p.result) := by
  refine ⟨fun id s has => reached.coherent has, ?_, ?_⟩
  · intro id message deadline s d₀ w₀ ds s₁ w₁ opens passes
    have coherent := passes.coherent (reached.coherent_opened opens)
    exact ⟨coherent, fun role active => coherent.speaker_known active⟩
  · intro id message deadline r d' w' s p routed has waits
    obtain ⟨s₀, d₀, w₀, s', opens, ends, rfl⟩ :=
      route_eq_some (fun opens => (reached.coherent_opened opens).named) routed
    rw [opens.get?_keep, if_pos rfl] at has
    cases has
    exact ends.of_pending (Nat.succ_pos _) (reached.coherent_opened opens) waits

open Rehearsal in
theorem sessions_coherent_backAndForth :
    ∃ r d w s p, deskOfDuo.route Stage.outside "s" "6*7?" none backAndForth = (some (r, d), w) ∧
      d.sessions.get? "s" = some s ∧ s.pending = some p ∧ s.Coherent w.registry ∧
      r.reply = handoffLimitText ∧ ∃ x, r.dispatches.getLast? = some x ∧
        x.receiver = .specialist p.role ∧ x.turn.outcome.signal = some (.handback p.result) := by
  have waits : ((deskOfDuo.route Stage.outside "s" "6*7?" none backAndForth).1.bind fun p =>
      (p.2.sessions.get? "s").bind DeskSession.pending).isSome := by
    decide +kernel
  rcases run : deskOfDuo.route Stage.outside "s" "6*7?" none backAndForth with ⟨_ | ⟨r, d⟩, w⟩
  · rw [run] at waits
    cases waits
  · rw [run] at waits
    dsimp only [Option.bind_some] at waits
    obtain ⟨p, hp⟩ := Option.isSome_iff_exists.mp waits
    obtain ⟨s, has, held⟩ := Option.bind_eq_some_iff.mp hp
    have coherent := (sessions_coherent (.message (.opened rfl) run)).1 "s" s has
    have cutShort := (sessions_coherent (.opened rfl)).2.2 "s" "6*7?" none r d w s p run has held
    exact ⟨r, d, w, s, p, rfl, has, held, coherent, cutShort⟩

end Desk

end Concierge
