import Concierge.Proofs.Handoff.Course
import Concierge.Rehearsal.Script

/-!
# Every message follows the rules

Whatever course a desk has taken, the next message of a session is a call of the handoff machine from
the session as it is opened: the session that is kept, the reply and the turns are those of the call.
-/

namespace Concierge

open Run DeskSession

variable {σ : Type}

/-! ## A rehearsal -/

namespace Rehearsal

def requestMath : Response :=
  ⟨"", some ⟨"request_sub_conversation",
    .ofMembers [("specialist_role", .str "math"), ("initial_context", .str "sums")]⟩⟩

def endMath : Response :=
  ⟨"", some ⟨"end_sub_conversation",
    .ofMembers [("status", .str "done"), ("final_result", .str "42"), ("last_user_message", .str "6*7?")]⟩⟩

def duo (coordinator : List Response) (math : Option (List Response)) : World Stage where
  outside := {
    models := ("main", .cues (coordinator.map fun r => ⟨.respond r, 0⟩)) ::
      (math.map fun rs => ("math", ModelPart.cues (rs.map fun r => ⟨.respond r, 0⟩))).toList }
  registry := { definitions := [{ role := "math", objective := "Calculate", model := some "math" }] }

def deskOfDuo : Desk := { config := {}, provider := ⟨.outside, "main", 0⟩ }

/-- The specialist ends the conversation at once and the coordinator answers. -/
def sums : World Stage := duo [requestMath, ⟨"It is 42.", none⟩] (some [endMath])

/-- Coordinator and specialist hand the conversation back and forth until no hop is left. -/
def backAndForth : World Stage := duo [requestMath, requestMath] (some [endMath, endMath])

/-- The specialist is asked for but has no model. -/
def absent : World Stage := duo [{ requestMath with text := "One moment." }] none

/-- What the coordinator is told in front of the next message when the specialist has ended the conversation. -/
def mathIsDone : String :=
  "[System note: the 'math' specialist ended its sub-conversation with status 'done'. Result: \"42\"." ++
    " Continue with the user's message below.]\n\n"

end Rehearsal

/-! ## Calls of a desk -/

theorem DeskSession.Ends.length_le {out : Outside σ} {message : String} {deadline : Option Nat} {hops : Nat}
    {s s' : DeskSession} {w w' : World σ} {r : Routed}
    (h : Ends out message deadline hops s w (some (r, s')) w') : r.dispatches.length ≤ hops := by
  cases h with
  | spent _ all => exact Nat.le_of_eq all
  | answered _ left _ _ _ =>
    rw [List.length_append]
    exact left

theorem DeskSession.Ends.length_pos {out : Outside σ} {message : String} {deadline : Option Nat}
    {hops : Nat} {s s' : DeskSession} {w w' : World σ} {r : Routed} (hops_pos : 0 < hops)
    (h : Ends out message deadline hops s w (some (r, s')) w') : 0 < r.dispatches.length := by
  cases h with
  | spent _ all => exact all ▸ hops_pos
  | answered _ _ _ _ _ =>
    rw [List.length_append]
    exact Nat.succ_pos _

namespace Desk

/-- **Routing refines the handoff machine.** There is no result just if an agent stays silent. -/
theorem route_follows_rules {out : Outside σ} {d : Desk} {w : World σ} {log : String → List Entry}
    (reached : Course out d w log) (id message : String) (deadline : Option Nat) :
    ∃ s d₀ w₀ result w₁, Opens out deadline d id w s d₀ w₀ ∧
      Ends out message deadline maxHops s w₀ result w₁ ∧
      (∀ r s', result = some (r, s') → 1 ≤ r.dispatches.length ∧ r.dispatches.length ≤ maxHops) ∧
      d.route out id message deadline w = (result.map fun p => (p.1, d₀.keep id p.2), w₁) ∧
      d.process out id message deadline w =
        (result.map fun p => (p.1.reply, d₀.keep id p.2), w₁) := by
  obtain ⟨s, d₀, w₀, opens, run⟩ := route_opens out deadline d id message w
  have named := (reached.coherent_opened opens).named
  have ends := route_ends out message deadline named maxHops w₀
  rcases call : s.route out message maxHops deadline w₀ with ⟨result, w₁⟩
  rw [call] at ends
  have routed : d.route out id message deadline w = (result.map fun p => (p.1, d₀.keep id p.2), w₁) := by
    rw [run, bind_run, call]
    cases result <;> rfl
  refine ⟨s, d₀, w₀, result, w₁, opens, ends, ?_, routed, ?_⟩
  · rintro r s' rfl
    exact ⟨ends.length_pos (Nat.succ_pos _), ends.length_le⟩
  · unfold process
    rw [bind_run, routed]
    cases result <;> rfl

open Rehearsal in
theorem route_follows_rules_sums :
    Course Stage.outside deskOfDuo sums (fun _ => []) ∧
      (deskOfDuo.process Stage.outside "s" "6*7?" none sums).1.map (·.1) = some "It is 42." ∧
      (deskOfDuo.route Stage.outside "s" "6*7?" none sums).1.map (fun y => y.1.dispatches.map Dispatch.prompt) =
        some ["6*7?", "6*7?", mathIsDone ++ "6*7?"] ∧
      ∃ s d₀ w₀ result w₁, Opens Stage.outside none deskOfDuo "s" sums s d₀ w₀ ∧
        Ends Stage.outside "6*7?" none maxHops s w₀ result w₁ ∧
        (∀ r s', result = some (r, s') → 1 ≤ r.dispatches.length ∧ r.dispatches.length ≤ maxHops) ∧
        deskOfDuo.route Stage.outside "s" "6*7?" none sums =
          (result.map fun p => (p.1, d₀.keep "s" p.2), w₁) ∧
        deskOfDuo.process Stage.outside "s" "6*7?" none sums =
          (result.map fun p => (p.1.reply, d₀.keep "s" p.2), w₁) := by
  refine ⟨.opened rfl, ?_, ?_, route_follows_rules (.opened rfl) "s" "6*7?" none⟩
  · decide +kernel
  · decide +kernel

end Desk

end Concierge
