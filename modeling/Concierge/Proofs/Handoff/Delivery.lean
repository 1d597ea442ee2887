import Concierge.Proofs.Handoff.Routing
import Concierge.Proofs.Rounds

/-!
# Results are delivered once

What specialists hand back and what the coordinator is told make two lists over the turns of a session.
The first is always the second followed by what still waits: a hop moves what waits to the end of the
second list, and a handoff that ends a specialist's part puts a result both into the first list and in
the place that has just become empty.
-/

namespace Concierge

open Run

variable {σ : Type}

theorem Chat.turn_asks {out : Outside σ} {c c' : Chat} {message : String} {deadline : Option Nat} {w w' : World σ}
    {t : Turn} (taken : c.turn out message deadline w = (some (t, c'), w')) :
    ∃ e, t.exchanges.head? = some e ∧ e.request.prompt = [.text message] := by
  unfold turn at taken
  obtain ⟨_, w₁, ran, taken⟩ := bind_eq_some.mp taken
  obtain ⟨_, _, -, same⟩ := bind_eq_some.mp taken
  cases same
  have runs := c.agent.runTurn_runs out (Tool.use out []) c.contents [.text message] c.toolContext deadline w
  rw [ran] at runs
  obtain ⟨e, first, request⟩ := runs.head (Nat.lt_of_lt_of_le Nat.zero_lt_one (Nat.le_max_left _ _))
  exact ⟨e, first, by rw [request]; rfl⟩

namespace DeskSession

def acceptedIn (ds : List Dispatch) : List Pending := ds.filterMap Dispatch.accepted

def deliveredIn (ds : List Dispatch) : List Pending := ds.filterMap Dispatch.delivered

/-- What is noted of a turn on a message is what happened in it: the coordinator, and nobody else, was
told what is noted as delivered, in front of the message that its model was asked with, and a result is
noted as accepted just if a specialist handed it back. -/
structure Dispatch.Faithful (message : String) (d : Dispatch) : Prop where
  told : Told message d.delivered d.prompt
  asked : ∃ e, d.turn.exchanges.head? = some e ∧ e.request.prompt = [.text d.prompt]
  delivered : d.delivered.isSome → d.receiver = .coordinator
  accepted : ∀ p, d.accepted = some p ↔
    d.receiver = .specialist p.role ∧ d.turn.outcome.signal = some (.handback p.result)

theorem acceptedIn_cons (d : Dispatch) (ds : List Dispatch) :
    acceptedIn (d :: ds) = d.accepted.toList ++ acceptedIn ds := by
  unfold acceptedIn
  rw [List.filterMap_cons]
  cases d.accepted <;> rfl

theorem acceptedIn_append (ds ds' : List Dispatch) :
    acceptedIn (ds ++ ds') = acceptedIn ds ++ acceptedIn ds' := List.filterMap_append

theorem deliveredIn_cons (d : Dispatch) (ds : List Dispatch) :
    deliveredIn (d :: ds) = d.delivered.toList ++ deliveredIn ds := by
  unfold deliveredIn
  rw [List.filterMap_cons]
  cases d.delivered <;> rfl

theorem deliveredIn_append (ds ds' : List Dispatch) :
    deliveredIn (ds ++ ds') = deliveredIn ds ++ deliveredIn ds' := List.filterMap_append

/-! ## One call -/

section
variable {out : Outside σ} {message : String} {deadline : Option Nat} {s s₁ s₂ : DeskSession}
  {w w₁ w₂ : World σ} {d : Dispatch} {signal : Option Signal} {accepted : Option Pending}
  {ds : List Dispatch}

theorem Hop.delivered_eq (h : Hop out message deadline s w d s₁ w₁)
    (hs : s.pending.isSome → s.speaker = .coordinator) : d.delivered = s.pending := by
  cases h with
  | coordinator _ _ => rfl
  | specialist active _ _ => exact (pending_eq_none hs active).symm

theorem Onward.pending_eq (h : Onward out deadline s w signal accepted s₁ w₁) (none : s.pending = none) :
    s₁.pending = accepted := by
  cases h with
  | known _ | built _ _ => exact none
  | ended _ => rfl

theorem Onward.accepted_iff (h : Onward out deadline s w signal accepted s₁ w₁) (p : Pending) :
    accepted = some p ↔ s.speaker = .specialist p.role ∧ signal = some (.handback p.result) := by
  constructor
  · rintro rfl
    cases h with
    | ended active => exact ⟨active, rfl⟩
  · rintro ⟨active, rfl⟩
    cases h with
    | ended active' =>
      rw [active] at active'
      cases active'
      rfl

theorem Hop.faithful (hop : Hop out message deadline s w d s₁ w₁)
    (h : ∀ p, accepted = some p ↔
      s₁.speaker = .specialist p.role ∧ d.turn.outcome.signal = some (.handback p.result)) :
    { d with accepted := accepted }.Faithful message where
  told := by
    cases hop with
    | coordinator _ _ told => exact told
    | specialist _ _ _ => exact .bare
  asked := by
    cases hop with
    | coordinator _ taken _ | specialist _ _ taken => exact Chat.turn_asks taken
  delivered := by
    intro some
    cases hop with
    | coordinator _ _ => rfl
    | specialist _ _ _ => cases some
  accepted := by
    intro p
    show accepted = some p ↔ d.receiver = _ ∧ _
    rw [hop.receiver_eq, ← hop.speaker_eq]
    exact h p

theorem Hop.faithful_of_last (hop : Hop out message deadline s w d s₁ w₁)
    (last : ∀ accepted s' w', ¬ Onward out deadline s₁ w₁ d.turn.outcome.signal accepted s' w') :
    d.Faithful message := by
  have faithful : { d with accepted := none }.Faithful message := by
    refine hop.faithful fun p => ⟨?_, ?_⟩
    · intro h
      cases h
    · rintro ⟨active, signal⟩
      rw [signal] at last
      exact absurd (.ended active) (last _ _ _)
  have same : { d with accepted := none } = d := by rw [← hop.accepted_eq]
  rw [same] at faithful
  exact faithful

theorem Passes.faithful (h : Passes out message deadline s w ds s₁ w₁) :
    ∀ x ∈ ds, x.Faithful message := by
  induction h with
  | nil =>
    intro x hx
    cases hx
  | cons hop on _ ih =>
    intro x hx
    rcases List.mem_cons.mp hx with rfl | hx
    · exact hop.faithful on.accepted_iff
    · exact ih x hx

/-- What waited and what was accepted since are what was delivered and what waits now. -/
theorem Passes.balance (h : Passes out message deadline s w ds s₁ w₁) (hs : s.Coherent w.registry) :
    s.pending.toList ++ acceptedIn ds = deliveredIn ds ++ s₁.pending.toList := by
  induction h with
  | nil => exact List.append_nil _
  | @cons s w d s₁ w₁ accepted s₂ w₂ ds s₃ w₃ hop on _ ih =>
    -- The hop has made room, so that what is accepted now overwrites nothing.
    have empty := hop.pending_eq hs.waiting
    have rest := ih (on.coherent (hop.coherent hs) empty)
    rw [on.pending_eq empty] at rest
    rw [acceptedIn_cons, deliveredIn_cons]
    show s.pending.toList ++ (accepted.toList ++ acceptedIn ds) =
      d.delivered.toList ++ deliveredIn ds ++ s₃.pending.toList
    rw [hop.delivered_eq hs.waiting, List.append_assoc, rest]

theorem Ends.faithful {hops : Nat} {r : Routed} (h : Ends out message deadline hops s w (some (r, s₁)) w₁) :
    ∀ x ∈ r.dispatches, x.Faithful message := by
  cases h with
  | spent passes _ => exact passes.faithful
  | answered passes _ hop _ last =>
    intro x hx
    rcases List.mem_append.mp hx with hx | hx
    · exact passes.faithful x hx
    · rw [List.mem_singleton.mp hx]
      exact hop.faithful_of_last last

theorem Ends.balance {hops : Nat} {r : Routed} (h : Ends out message deadline hops s w (some (r, s₁)) w₁)
    (hs : s.Coherent w.registry) :
    s.pending.toList ++ acceptedIn r.dispatches = deliveredIn r.dispatches ++ s₁.pending.toList := by
  cases h with
  | spent passes _ => exact passes.balance hs
  | answered passes _ hop _ _ =>
    have waiting := (passes.coherent hs).waiting
    rw [acceptedIn_append, deliveredIn_append, ← List.append_assoc, passes.balance hs,
      acceptedIn_cons, deliveredIn_cons, hop.accepted_eq, hop.delivered_eq waiting, hop.pending_eq waiting]
    simp [acceptedIn, deliveredIn]

end

end DeskSession

open DeskSession

/-! ## A whole session -/

def turnsOf (l : List Entry) : List Dispatch := l.flatMap (·.routed.dispatches)

theorem turnsOf_concat (l : List Entry) (e : Entry) : turnsOf (l ++ [e]) = turnsOf l ++ e.routed.dispatches := by
  unfold turnsOf
  rw [List.flatMap_append, List.flatMap_singleton]

namespace Desk

structure Accounted (l : List Entry) (s : DeskSession) : Prop where
  faithful : ∀ e ∈ l, ∀ x ∈ e.routed.dispatches, x.Faithful e.message
  balance : acceptedIn (turnsOf l) = deliveredIn (turnsOf l) ++ s.pending.toList

theorem lasting_accounted (out : Outside σ) : Lasting out Accounted where
  new made := by
    refine ⟨fun e he => ?_, ?_⟩
    · cases he
    · rw [newSession_pending made]
      rfl
  refresh h refreshed := by
    refine ⟨h.faithful, ?_⟩
    rw [refreshed.pending_eq]
    exact h.balance
  call h coherent ends := by
    refine ⟨fun e he => ?_, ?_⟩
    · rcases List.mem_append.mp he with he | he
      · exact h.faithful e he
      · rw [List.mem_singleton.mp he]
        exact ends.faithful
    · rw [turnsOf_concat, acceptedIn_append, deliveredIn_append, h.balance, List.append_assoc,
        ends.balance coherent, List.append_assoc]

/-- **Every result is delivered once.** At all times, also while a message is on its way from agent to
agent, the results that were accepted are those that were delivered and then the one that waits. -/
theorem results_delivered_once {out : Outside σ} {d : Desk} {w : World σ} {log : String → List Entry}
    (reached : Course out d w log) (id : String) :
    (∀ e ∈ log id, ∀ x ∈ e.routed.dispatches, x.Faithful e.message) ∧
      (∀ s, d.sessions.get? id = some s →
        acceptedIn (turnsOf (log id)) = deliveredIn (turnsOf (log id)) ++ s.pending.toList) ∧
      ∀ message deadline s d₀ w₀ ds s₁ w₁, Opens out deadline d id w s d₀ w₀ →
        Passes out message deadline s w₀ ds s₁ w₁ →
          (∀ x ∈ ds, x.Faithful message) ∧
            acceptedIn (turnsOf (log id) ++ ds) =
              deliveredIn (turnsOf (log id) ++ ds) ++ s₁.pending.toList := by
  refine ⟨?_, ?_, ?_⟩
  · cases has : d.sessions.get? id with
    | none =>
      rw [reached.log_nil has]
      intro e he
      cases he
    | some s => exact (reached.holds (lasting_accounted out) id s has).2.faithful
  · intro s has
    exact (reached.holds (lasting_accounted out) id s has).2.balance
  · intro message deadline s d₀ w₀ ds s₁ w₁ opens passes
    obtain ⟨coherent, accounted⟩ := reached.holds_opened (lasting_accounted out) opens
    refine ⟨passes.faithful, ?_⟩
    rw [acceptedIn_append, deliveredIn_append, accounted.balance, List.append_assoc,
      passes.balance coherent, List.append_assoc]

open Rehearsal in
theorem results_delivered_once_backAndForth :
    ∃ r d w, deskOfDuo.route Stage.outside "s" "6*7?" none backAndForth = (some (r, d), w) ∧
      (acceptedIn r.dispatches).length = 2 ∧ (deliveredIn r.dispatches).length = 1 ∧
      r.dispatches.map Dispatch.prompt = ["6*7?", "6*7?", mathIsDone ++ "6*7?", "6*7?"] ∧
      (∀ x ∈ r.dispatches, x.Faithful "6*7?") ∧
      ∀ s, d.sessions.get? "s" = some s →
        acceptedIn r.dispatches = deliveredIn r.dispatches ++ s.pending.toList := by
  obtain ⟨⟨r, d⟩, w, run, seen⟩ := answer_of_seen (deskOfDuo.route Stage.outside "s" "6*7?") none backAndForth
    (fun y _ => ((acceptedIn y.1.dispatches).length, (deliveredIn y.1.dispatches).length,
      y.1.dispatches.map Dispatch.prompt))
    (show _ = some (2, 1, ["6*7?", "6*7?", mathIsDone ++ "6*7?", "6*7?"]) by decide +kernel)
  simp only [Prod.mk.injEq] at seen
  obtain ⟨faithful, once, -⟩ := results_delivered_once (.message (.opened rfl) run) "s"
  rw [Function.update_self] at faithful once
  refine ⟨r, d, w, run, seen.1, seen.2.1, seen.2.2, faithful _ (List.mem_singleton_self _), fun s has => ?_⟩
  simpa [turnsOf] using once s has

end Desk

end Concierge
