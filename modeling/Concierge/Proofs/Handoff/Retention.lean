import Concierge.Proofs.Handoff.Delivery
import Concierge.Proofs.Handoff.Recording
import Concierge.Proofs.Rounds

/-!
# What the coordinator keeps of the results

The transcript of the coordinator is what it has recorded of its turns since the session began; no new
configuration takes any of it away. So the note of a result that was delivered stays in front of a
message in the transcript, and in all later requests, if the turn that got the note was recorded.
-/

namespace Concierge

open Run DeskSession

variable {σ : Type}

namespace Rehearsal

def requestLaw : Response :=
  ⟨"", some ⟨"request_sub_conversation",
    .ofMembers [("specialist_role", .str "law"), ("initial_context", .str "fines")]⟩⟩

/-- The coordinator gets the result of one specialist and hands the conversation on to another. -/
def relay : World Stage where
  outside := {
    models := [("main", .cues [⟨.respond requestMath, 0⟩, ⟨.respond requestLaw, 0⟩]),
      ("math", .cues [⟨.respond endMath, 0⟩]), ("law", .cues [⟨.respond ⟨"Pay 42.", none⟩, 0⟩])] }
  registry := {
    definitions := [{ role := "math", objective := "Calculate", model := some "math" },
      { role := "law", objective := "Judge", model := some "law" }] }

end Rehearsal

namespace DeskSession

theorem Refreshes.coordinator_eq {out : Outside σ} {deadline : Option Nat} {s s₁ : DeskSession}
    {w w₁ : World σ} (h : Refreshes out deadline s w s₁ w₁) : s₁.coordinator = s.coordinator := by
  cases h <;> rfl

end DeskSession

namespace Desk

section
variable {out : Outside σ} {deadline : Option Nat} {d d' : Desk} {id : String} {w w' : World σ} {s s' : DeskSession}

theorem lasting_recorded (out : Outside σ) :
    Lasting out fun l s => s.coordinator.history = recordedBy .coordinator (turnsOf l) where
  new made := by
    obtain ⟨_, _, rfl, silent⟩ := newSession_eq made
    exact silent
  refresh h refreshed := by rw [refreshed.coordinator_eq, h]
  call h _ ends := by
    have recorded := ends.recorded .coordinator
    simp only [transcript] at recorded
    rw [recorded, h, turnsOf_concat, recordedBy_append]

theorem Opens.history_eq (h : Opens out deadline d id w s' d' w') (has : d.sessions.get? id = some s) :
    s'.coordinator.history = s.coordinator.history := by
  rw [(h.refreshes has).coordinator_eq]

end

/-- **No result is forgotten unless the coordinator hands the conversation on with it.** Each result that
was accepted was delivered or still waits. The coordinator got it as a note in front of a message; if it
handed nothing on in that turn, then note and message stay in its transcript. What is in the transcript
is shown in every later request of the coordinator. -/
theorem results_kept_unless_handed_on {out : Outside σ} {d : Desk} {w : World σ} {log : String → List Entry}
    {id : String} {s : DeskSession} (reached : Course out d w log) (has : d.sessions.get? id = some s) :
    acceptedIn (turnsOf (log id)) = deliveredIn (turnsOf (log id)) ++ s.pending.toList ∧
      (∀ e ∈ log id, ∀ x ∈ e.routed.dispatches, x.Faithful e.message ∧ ∀ p, x.delivered = some p →
        x.receiver = .coordinator ∧ x.prompt = p.note ++ "\n\n" ++ e.message ∧
          (Chat.handsOff x.turn.outcome = false → .user x.prompt ∈ s.coordinator.history)) ∧
      ∀ deadline message s₀ d₀ w₀ ds s₁ w₁ es r, Opens out deadline d id w s₀ d₀ w₀ →
        Passes out message deadline s₀ w₀ ds s₁ w₁ → s₁.speaker = .coordinator →
          s₁.coordinator.agent.Asks out (Tool.use out []) s₁.coordinator.contents
            [.text (coordinatorPrompt s₁.pending message)] s₁.coordinator.toolContext deadline w₁ es r →
            ∀ m ∈ s.coordinator.history, m.content ∈ r.contents := by
  have accounted := (reached.holds (lasting_accounted out) id s has).2
  have recorded := (reached.holds (lasting_recorded out) id s has).2
  refine ⟨accounted.balance, fun e he x hx => ?_, ?_⟩
  · have faithful := accounted.faithful e he x hx
    refine ⟨faithful, fun p told => ?_⟩
    have receiver : x.receiver = .coordinator := faithful.delivered (by rw [told]; rfl)
    refine ⟨receiver, ?_, fun keeps => ?_⟩
    · rw [told_iff.mp faithful.told, told]
      rfl
    · rw [recorded]
      refine List.mem_flatMap.mpr ⟨x, List.mem_flatMap.mpr ⟨e, he, hx⟩, ?_⟩
      rw [if_pos receiver, ← x.messagesOf_eq]
      simp [Chat.messagesOf, keeps]
  · intro deadline message s₀ d₀ w₀ ds s₁ w₁ es r opens passes _ asks m hm
    have kept := passes.transcript_eq .coordinator
    simp only [transcript, opens.history_eq has] at kept
    rw [asks.contents_eq (List.cons_ne_nil _ _), Chat.contents, kept]
    exact List.mem_append_left _ (List.mem_map_of_mem hm)

open Rehearsal in
theorem results_kept_unless_handed_on_sums :
    ∃ r d w s x p, deskOfDuo.route Stage.outside "s" "6*7?" none sums = (some (r, d), w) ∧
      d.sessions.get? "s" = some s ∧ x ∈ r.dispatches ∧ x.delivered = some p ∧
      Chat.handsOff x.turn.outcome = false ∧ .user (p.note ++ "\n\n" ++ "6*7?") ∈ s.coordinator.history := by
  obtain ⟨⟨r, d⟩, w, run, seen⟩ := answer_of_seen (deskOfDuo.route Stage.outside "s" "6*7?") none sums
    (fun y _ => ((y.2.sessions.get? "s").isSome, y.1.dispatches.getLast?.map fun x =>
      (x.delivered.isSome, Chat.handsOff x.turn.outcome)))
    (show _ = some (true, some (true, false)) by decide +kernel)
  simp only [Prod.mk.injEq, Option.map_eq_some_iff] at seen
  obtain ⟨kept, x, last, told, keeps⟩ := seen
  obtain ⟨s, has⟩ := Option.isSome_iff_exists.mp kept
  obtain ⟨p, told⟩ := Option.isSome_iff_exists.mp told
  have member := List.mem_of_getLast? last
  obtain ⟨-, noted⟩ := (results_kept_unless_handed_on (.message (.opened rfl) run) has).2.1
    ⟨"6*7?", r⟩ (by simp) x member
  obtain ⟨-, prompt, noted⟩ := noted p told
  have note := noted keeps
  rw [prompt] at note
  exact ⟨r, d, w, s, x, p, run, has, member, told, keeps, note⟩

open Rehearsal in
/-- The coordinator hands the conversation on in the very turn that shows it the note: now nothing waits,
and the note is not in its transcript. -/
theorem result_lost_to_next_specialist :
    ∃ r d w s p, deskOfDuo.route Stage.outside "s" "6*7?" none relay = (some (r, d), w) ∧
      r.reply = "Pay 42." ∧ d.sessions.get? "s" = some s ∧ acceptedIn r.dispatches = [p] ∧
      s.pending = none ∧ ¬ ∃ text, .user (p.note ++ text) ∈ s.coordinator.history := by
  obtain ⟨⟨r, d⟩, w, run, seen⟩ := answer_of_seen (deskOfDuo.route Stage.outside "s" "6*7?") none relay
    (fun y _ => (y.1.reply, (acceptedIn y.1.dispatches).length, (y.2.sessions.get? "s").map fun s =>
      (s.pending.isNone, s.coordinator.history)))
    (show _ = some ("Pay 42.", 1, some (true, [])) by decide +kernel)
  simp only [Prod.mk.injEq, Option.map_eq_some_iff] at seen
  obtain ⟨reply, one, s, has, idle, silent⟩ := seen
  obtain ⟨p, accepted⟩ := List.length_eq_one_iff.mp one
  refine ⟨r, d, w, s, p, run, reply, has, accepted, Option.isNone_iff_eq_none.mp idle, ?_⟩
  simp [silent]

end Desk

end Concierge
