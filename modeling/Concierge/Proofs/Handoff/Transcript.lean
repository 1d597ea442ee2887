import Concierge.Proofs.Handoff.Invariant

/-!
# Who has recorded a message

Each agent of a session has a transcript of its own. A turn adds to the transcript of the agent whose
turn it is, unless its signal speaks of a handoff, and handoffs add to none. So the agent that answers
has recorded the message, except where its signal led nowhere: then nobody has.
-/

namespace Concierge

open Run

variable {σ : Type}

namespace DeskSession

def transcript (s : DeskSession) : Speaker → List Message
  | .coordinator => s.coordinator.history
  | .specialist role => ((lookupName role s.specialists).map Chat.history).getD []

theorem transcript_known {s : DeskSession} {role : String} {chat : Chat}
    (known : lookupName role s.specialists = some chat) :
    s.transcript (.specialist role) = chat.history := by
  unfold transcript
  dsimp only
  rw [known]
  rfl

theorem transcript_absent {s : DeskSession} {role : String}
    (absent : lookupName role s.specialists = none) : s.transcript (.specialist role) = [] := by
  unfold transcript
  dsimp only
  rw [absent]
  rfl

theorem transcript_insertSorted (s : DeskSession) (role : String) (chat : Chat) (x : Speaker) :
    { s with specialists := insertSorted role chat s.specialists }.transcript x =
      if x = .specialist role then chat.history else s.transcript x := by
  cases x with
  | coordinator => rfl
  | specialist role' =>
    unfold transcript
    dsimp only
    rw [lookupName_insertSorted]
    by_cases same : role' = role
    · rw [if_pos same, if_pos (congrArg _ same)]
      rfl
    · rw [if_neg same, if_neg]
      intro h
      cases h
      exact same rfl

theorem transcript_started {s : DeskSession} {role context : String} {chat : Chat}
    (before : s.transcript (.specialist role) = chat.history) (x : Speaker) :
    { s with
      specialists := insertSorted role (addContext context chat) s.specialists
      speaker := .specialist role }.transcript x = s.transcript x := by
  have inserted := transcript_insertSorted s role (addContext context chat) x
  refine Eq.trans ?_ (inserted.trans ?_)
  · cases x <;> rfl
  · by_cases same : x = .specialist role
    · rw [if_pos same, same]
      exact before.symm
    · rw [if_neg same]

section
variable {out : Outside σ} {message : String} {deadline : Option Nat} {s s₁ : DeskSession}
  {w w₁ : World σ} {d : Dispatch} {signal : Option Signal} {accepted : Option Pending}
  {ds : List Dispatch}

theorem Hop.transcript_eq (h : Hop out message deadline s w d s₁ w₁) (x : Speaker) :
    s₁.transcript x = s.transcript x ++
      if x = d.receiver then Chat.messagesOf d.prompt d.turn.outcome else [] := by
  cases h with
  | coordinator _ taken =>
    cases x with
    | coordinator =>
      rw [if_pos rfl]
      show Chat.history _ = _
      rw [Chat.turn_chat taken]
      rfl
    | specialist role =>
      rw [if_neg (fun h => by cases h), List.append_nil]
      rfl
  | @specialist role chat turn chat' _ active known taken =>
    rw [transcript_insertSorted]
    by_cases same : x = .specialist role
    · rw [if_pos same, if_pos same, same, transcript_known known, Chat.turn_chat taken]
    · rw [if_neg same, if_neg same, List.append_nil]

theorem Onward.handsOff {o : TurnOutcome} (h : Onward out deadline s w o.signal accepted s₁ w₁) :
    Chat.handsOff o = true := by
  unfold Chat.handsOff
  generalize o.signal = signal at h ⊢
  cases h <;> rfl

theorem Onward.transcript_eq (h : Onward out deadline s w signal accepted s₁ w₁) (x : Speaker) :
    s₁.transcript x = s.transcript x := by
  cases h with
  | ended _ => cases x <;> rfl
  | known has => exact transcript_started (transcript_known has) x
  | built new made =>
    have empty := (made_of_buildSpecialist made).2
    exact transcript_started ((transcript_absent new).trans empty.symm) x

/-- The message leaves no trace with the agents that hand it on. -/
theorem Passes.transcript_eq (h : Passes out message deadline s w ds s₁ w₁) (x : Speaker) :
    s₁.transcript x = s.transcript x := by
  induction h with
  | nil => rfl
  | cons hop on _ ih =>
    rw [ih, on.transcript_eq, hop.transcript_eq]
    unfold Chat.messagesOf
    rw [if_pos on.handsOff, ite_self, List.append_nil]

theorem Ends.transcript_eq {hops : Nat} {r : Routed}
    (h : Ends out message deadline hops s w (some (r, s₁)) w₁) (answered : r.reply ≠ Desk.handoffLimitText) :
    ∃ x, r.dispatches.getLast? = some x ∧ r.reply = x.reply ∧ x.Faithful message ∧
      ∀ y, s₁.transcript y = s.transcript y ++
        if y = x.receiver then Chat.messagesOf x.prompt x.turn.outcome else [] := by
  cases h with
  | spent _ _ => exact absurd rfl answered
  | answered passes _ hop _ last =>
    refine ⟨_, List.getLast?_concat, rfl, hop.faithful_of_last last, fun y => ?_⟩
    rw [hop.transcript_eq, passes.transcript_eq]

end

def Records (before after : List Message) (prompt : String) : Prop :=
  ∃ answer, after = before ++ .user prompt :: answer ∧ (answer = [] ∨ ∃ text, answer = [.model text])

theorem records_messagesOf_iff (before : List Message) (prompt : String) (o : TurnOutcome) :
    Records before (before ++ Chat.messagesOf prompt o) prompt ↔ Chat.handsOff o = false := by
  unfold Chat.messagesOf
  constructor
  · rintro ⟨answer, grown, -⟩
    by_contra hands
    rw [Bool.not_eq_false] at hands
    rw [if_pos hands] at grown
    cases List.append_cancel_left grown
  · intro keeps
    rw [keeps, if_neg Bool.false_ne_true]
    refine ⟨_, rfl, ?_⟩
    by_cases silent : o.text.isEmpty
    · rw [if_pos silent]
      exact Or.inl rfl
    · rw [if_neg silent]
      exact Or.inr ⟨o.text, rfl⟩

end DeskSession

namespace Desk

open DeskSession

/-- **The answering agent has recorded the message just if its turn did not speak of a handoff.** If it
did, the handoff led nowhere and no transcript has changed. -/
theorem answer_recorded_iff {out : Outside σ} {d d' : Desk} {w w' : World σ} {log : String → List Entry}
    {id message : String} {deadline : Option Nat} {r : Routed} (reached : Course out d w log)
    (routed : d.route out id message deadline w = (some (r, d'), w'))
    (answered : r.reply ≠ handoffLimitText) :
    ∃ s d₀ w₀ s' x, Opens out deadline d id w s d₀ w₀ ∧ d'.sessions.get? id = some s' ∧
      r.dispatches.getLast? = some x ∧ r.reply = x.reply ∧ x.Faithful message ∧
      (Records (s.transcript x.receiver) (s'.transcript x.receiver) x.prompt ↔
        Chat.handsOff x.turn.outcome = false) ∧
      (Chat.handsOff x.turn.outcome = true → ∀ y, s'.transcript y = s.transcript y) := by
  obtain ⟨s, d₀, w₀, s', opens, ends, rfl⟩ :=
    route_eq_some (fun opens => (reached.coherent_opened opens).named) routed
  obtain ⟨x, found, reply, faithful, grown⟩ := ends.transcript_eq answered
  have kept : (d₀.keep id s').sessions.get? id = some s' := by
    rw [opens.get?_keep, if_pos rfl]
  refine ⟨s, d₀, w₀, s', x, opens, kept, found, reply, faithful, ?_, ?_⟩
  · rw [grown, if_pos rfl]
    exact records_messagesOf_iff _ _ _
  · intro hands y
    unfold Chat.messagesOf at grown
    rw [grown, if_pos hands, ite_self, List.append_nil]

open Rehearsal in
theorem answer_recorded_iff_sums :
    ∃ r d w s d₀ w₀ s' x, deskOfDuo.route Stage.outside "s" "6*7?" none sums = (some (r, d), w) ∧
      r.reply = "It is 42." ∧ Opens Stage.outside none deskOfDuo "s" sums s d₀ w₀ ∧
      d.sessions.get? "s" = some s' ∧ r.dispatches.getLast? = some x ∧
      Records (s.transcript x.receiver) (s'.transcript x.receiver) x.prompt := by
  have seen : (deskOfDuo.route Stage.outside "s" "6*7?" none sums).1.map (fun p =>
      (p.1.reply, p.1.dispatches.getLast?.map fun x => Chat.handsOff x.turn.outcome)) =
        some ("It is 42.", some false) := by
    decide +kernel
  rcases run : deskOfDuo.route Stage.outside "s" "6*7?" none sums with ⟨_ | ⟨r, d⟩, w⟩
  · rw [run] at seen
    cases seen
  · rw [run] at seen
    simp only [Option.map_some, Option.some.injEq, Prod.mk.injEq] at seen
    have answered : r.reply ≠ handoffLimitText := by
      rw [seen.1]
      decide
    obtain ⟨s, d₀, w₀, s', x, opens, kept, found, -, -, recorded, -⟩ :=
      answer_recorded_iff (.opened rfl) run answered
    rw [found] at seen
    have keeps := Option.some.inj seen.2
    exact ⟨r, d, w, s, d₀, w₀, s', x, rfl, seen.1, opens, kept, found, recorded.mpr keeps⟩

open Rehearsal in
/-- The specialist is defined but there is no such model: the coordinator's words are the reply, and
neither they nor the message are in its transcript. -/
theorem message_lost_to_absent_specialist :
    ∃ r d w s x, deskOfDuo.route Stage.outside "s" "6*7?" none absent = (some (r, d), w) ∧
      r.reply = "One moment." ∧ d.sessions.get? "s" = some s ∧ r.dispatches.getLast? = some x ∧
      x.receiver = .coordinator ∧ s.transcript x.receiver = [] ∧
      ¬ ∃ before, Records before (s.transcript x.receiver) x.prompt := by
  have seen : (deskOfDuo.route Stage.outside "s" "6*7?" none absent).1.map (fun p =>
      (p.1.reply, p.1.dispatches.getLast?.map Dispatch.receiver,
        (p.2.sessions.get? "s").map fun s => DeskSession.transcript s .coordinator)) =
        some ("One moment.", some .coordinator, some []) := by
    decide +kernel
  rcases run : deskOfDuo.route Stage.outside "s" "6*7?" none absent with ⟨_ | ⟨r, d⟩, w⟩
  · rw [run] at seen
    cases seen
  · rw [run] at seen
    simp only [Option.map_some, Option.some.injEq, Prod.mk.injEq] at seen
    obtain ⟨reply, last, silent⟩ := seen
    obtain ⟨x, found, receiver⟩ := Option.map_eq_some_iff.mp last
    obtain ⟨s, kept, empty⟩ := Option.map_eq_some_iff.mp silent
    rw [← receiver] at empty
    refine ⟨r, d, w, s, x, rfl, reply, kept, found, receiver, empty, ?_⟩
    rintro ⟨before, answer, grown, -⟩
    rw [empty] at grown
    exact List.append_ne_nil_of_right_ne_nil before (List.cons_ne_nil _ _) grown.symm

end Desk

end Concierge
