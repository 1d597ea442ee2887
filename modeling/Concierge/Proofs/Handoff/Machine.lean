import Concierge.Proofs.Registry
import Concierge.Reception

/-!
# The handoff machine

A message of a session goes from agent to agent: each `Hop` is a turn of the agent that is active at
that moment, and its signal either hands the message on (`Onward`) or leaves the session as it is
(`Stays`). A call `Ends` when a turn hands nothing on, when no hop is left, or never, because an agent
does not answer. `route_ends` says that `route` is a call of this machine.
-/

namespace Concierge.DeskSession

open Run

variable {σ : Type}

def Named (s : DeskSession) : Prop := ∀ role, s.speaker = .specialist role → role ∈ s.roles

/-- The reply if the turn is the last one. A signal that led nowhere is not spoken of; a fixed text
stands in for a blank one. -/
def Dispatch.reply (d : Dispatch) : String :=
  match d.turn.outcome.signal with
  | none => d.turn.outcome.text
  | some _ =>
    if d.turn.outcome.text.toList.all Text.isBlank then
      "Sorry, something went wrong while routing your request. Could you rephrase it?"
    else d.turn.outcome.text

theorem orIfBlank_signalErrorText (text : String) : orIfBlank text Desk.signalErrorText =
    if text.toList.all Text.isBlank then
      "Sorry, something went wrong while routing your request. Could you rephrase it?"
    else text := rfl

/-! ## What the coordinator is told -/

/-- The note of a result. It ends with what the specialist has to say to the coordinator, if that is anything. -/
inductive Noted (p : Pending) : String → Prop
  | silent (nothing : p.result.message = none) :
      Noted p ("[System note: the '" ++ p.role ++ "' specialist ended its sub-conversation with status '" ++
        p.result.status ++ "'. Result: " ++ Json.compact p.result.finalResult.data ++ "." ++
        " Continue with the user's message below.]")
  | spoken {m} (said : p.result.message = some m) :
      Noted p ("[System note: the '" ++ p.role ++ "' specialist ended its sub-conversation with status '" ++
        p.result.status ++ "'. Result: " ++ Json.compact p.result.finalResult.data ++ "." ++
        " Message for you: " ++ m ++ "." ++ " Continue with the user's message below.]")

/-- With a message that reaches it the coordinator is told what waits for it: a note, a blank line, and the message. -/
inductive Told (message : String) : Option Pending → String → Prop
  | bare : Told message none message
  | noted {p note} (noted : Noted p note) : Told message (some p) (note ++ "\n\n" ++ message)

theorem Noted.eq_note {p : Pending} {note : String} (h : Noted p note) : note = p.note := by
  unfold Pending.note
  cases h with
  | silent nothing => simp only [nothing, String.append_empty]
  | spoken said => simp only [said, String.append_assoc]

theorem noted_iff {p : Pending} {note : String} : Noted p note ↔ note = p.note := by
  refine ⟨Noted.eq_note, ?_⟩
  rintro rfl
  cases said : p.result.message with
  | none =>
    have noted := Noted.silent said
    exact noted.eq_note ▸ noted
  | some m =>
    have noted := Noted.spoken said
    exact noted.eq_note ▸ noted

theorem told_iff {message : String} {pending : Option Pending} {prompt : String} :
    Told message pending prompt ↔ prompt = coordinatorPrompt pending message := by
  constructor
  · intro h
    cases h with
    | bare => rfl
    | noted noted => rw [noted_iff.mp noted, coordinatorPrompt]
  · rintro rfl
    cases pending with
    | none => exact .bare
    | some p => exact .noted (noted_iff.mpr rfl)

/-! ## The rules -/

section
variable (out : Outside σ) (message : String) (deadline : Option Nat)

/-- The active agent takes its turn. A specialist is given the message as it is, the coordinator the
message behind the note of what waits for it, which then no longer waits. -/
inductive Hop (s : DeskSession) (w : World σ) : Dispatch → DeskSession → World σ → Prop
  | coordinator {prompt turn chat w₁} (active : s.speaker = .coordinator)
      (taken : s.coordinator.turn out prompt deadline w = (some (turn, chat), w₁))
      (told : Told message s.pending prompt) :
      Hop s w ⟨.coordinator, prompt, s.pending, turn, none⟩ { s with coordinator := chat, pending := none } w₁
  | specialist {role chat turn chat' w₁} (active : s.speaker = .specialist role)
      (known : lookupName role s.specialists = some chat)
      (taken : chat.turn out message deadline w = (some (turn, chat'), w₁)) :
      Hop s w ⟨.specialist role, message, none, turn, none⟩
        { s with specialists := insertSorted role chat' s.specialists } w₁

inductive Silent (s : DeskSession) (w : World σ) : World σ → Prop
  | coordinator {prompt w₁} (active : s.speaker = .coordinator)
      (cut : s.coordinator.turn out prompt deadline w = (none, w₁)) (told : Told message s.pending prompt) :
      Silent s w w₁
  | specialist {role chat w₁} (active : s.speaker = .specialist role)
      (known : lookupName role s.specialists = some chat)
      (cut : chat.turn out message deadline w = (none, w₁)) : Silent s w w₁

/-- The signal of a turn hands the message on: to a specialist that the session has or that can be
built, or back to the coordinator with what the active specialist has accomplished. -/
inductive Onward (s : DeskSession) (w : World σ) :
    Option Signal → Option Pending → DeskSession → World σ → Prop
  | known {role context chat} (has : lookupName role s.specialists = some chat) :
      Onward s w (some (.request role context)) none
        { s with
          specialists := insertSorted role (addContext context chat) s.specialists
          speaker := .specialist role } w
  | built {role context chat w₁} (new : lookupName role s.specialists = none)
      (made : buildSpecialist out role s.memory deadline w = (some (.ok chat), w₁)) :
      Onward s w (some (.request role context)) none
        { s with
          specialists := insertSorted role (addContext context chat) s.specialists
          speaker := .specialist role } w₁
  | ended {role result} (active : s.speaker = .specialist role) :
      Onward s w (some (.handback result)) (some ⟨role, result⟩)
        { s with speaker := .coordinator, pending := some ⟨role, result⟩ } w

inductive Stays (s : DeskSession) (w : World σ) : Option Signal → World σ → Prop
  | plain : Stays s w none w
  | malformed {error args} : Stays s w (some (.malformed error args)) w
  | refused {role context e w₁} (new : lookupName role s.specialists = none)
      (failed : buildSpecialist out role s.memory deadline w = (some (.error e), w₁)) :
      Stays s w (some (.request role context)) w₁
  | ignored {result} (active : s.speaker = .coordinator) : Stays s w (some (.handback result)) w

inductive Passes : DeskSession → World σ → List Dispatch → DeskSession → World σ → Prop
  | nil {s w} : Passes s w [] s w
  | cons {s w d s₁ w₁ accepted s₂ w₂ ds s₃ w₃} (hop : Hop out message deadline s w d s₁ w₁)
      (on : Onward out deadline s₁ w₁ d.turn.outcome.signal accepted s₂ w₂)
      (rest : Passes s₂ w₂ ds s₃ w₃) : Passes s w ({ d with accepted := accepted } :: ds) s₃ w₃

/-- A call of at most `hops` turns. There is no result if an agent stays silent. -/
inductive Ends (hops : Nat) (s : DeskSession) (w : World σ) :
    Option (Routed × DeskSession) → World σ → Prop
  | spent {ds s₁ w₁} (passes : Passes out message deadline s w ds s₁ w₁) (all : ds.length = hops) :
      Ends hops s w
        (some (⟨ds, "Sorry, I couldn't find the right agent to answer that. Could you rephrase your request?"⟩,
          { s₁ with speaker := .coordinator })) w₁
  | answered {ds s₁ w₁ d s₂ w₂ w₃} (passes : Passes out message deadline s w ds s₁ w₁)
      (left : ds.length < hops) (hop : Hop out message deadline s₁ w₁ d s₂ w₂)
      (stays : Stays out deadline s₂ w₂ d.turn.outcome.signal w₃)
      (last : ∀ accepted s' w', ¬ Onward out deadline s₂ w₂ d.turn.outcome.signal accepted s' w') :
      Ends hops s w (some (⟨ds ++ [d], d.reply⟩, s₂)) w₃
  | silent {ds s₁ w₁ w₂} (passes : Passes out message deadline s w ds s₁ w₁)
      (left : ds.length < hops) (silent : Silent out message deadline s₁ w₁ w₂) :
      Ends hops s w none w₂

end

/-! ## What the rules leave true -/

section
variable {out : Outside σ} {message : String} {deadline : Option Nat} {s s₁ : DeskSession}
  {w w₁ w₂ : World σ} {d : Dispatch} {signal : Option Signal} {accepted : Option Pending}

theorem Onward.not_stays (h : Onward out deadline s w signal accepted s₁ w₁) :
    ¬ Stays out deadline s w signal w₂ := by
  intro hs
  cases h with
  | known has =>
    cases hs with
    | refused new _ => rw [has] at new; cases new
  | built _ made =>
    cases hs with
    | refused _ failed => rw [made] at failed; cases failed
  | ended active =>
    cases hs with
    | ignored active' => rw [active] at active'; cases active'

theorem Onward.named (h : Onward out deadline s w signal accepted s₁ w₁) : s₁.Named := by
  intro role hrole
  cases h with
  | known _ | built _ _ =>
    cases hrole
    exact mem_names_insertSorted.mpr (Or.inl rfl)
  | ended _ => cases hrole

theorem Hop.accepted_eq (h : Hop out message deadline s w d s₁ w₁) : d.accepted = none := by
  cases h <;> rfl

theorem named_of_coordinator (h : s.speaker = .coordinator) : s.Named := by
  intro role hrole
  rw [h] at hrole
  cases hrole

end

/-! ## Routing follows the rules -/

section
variable (out : Outside σ) (message : String) (deadline : Option Nat)

theorem answers_buildSpecialist (role : String) (memory : Adapters) :
    Answers (buildSpecialist out role memory : Run σ (Except RegistryError Chat)) := by
  unfold buildSpecialist
  refine answers_bind answers_get fun w => ?_
  split
  · exact answers_pure _
  · refine answers_bind (answers_modifyGet _) fun p => ?_
    split
    · exact answers_pure _
    · exact answers_bind (Chat.answers_build out _ _ _ _ _) fun chat => answers_pure _

theorem askCoordinator_run {s : DeskSession} (w : World σ) (active : s.speaker = .coordinator) :
    (∃ d s₁ w₁, s.askCoordinator out message deadline w = (some (d, s₁), w₁) ∧
      Hop out message deadline s w d s₁ w₁) ∨
    ∃ w₁, s.askCoordinator out message deadline w = (none, w₁) ∧ Silent out message deadline s w w₁ := by
  unfold askCoordinator
  rcases answers_or_not (s.coordinator.turn out (coordinatorPrompt s.pending message)) deadline w with
    ⟨⟨turn, chat⟩, w₁, h⟩ | ⟨w₁, h⟩
  · have same : { s with coordinator := chat, pending := none, speaker := .coordinator } =
        { s with coordinator := chat, pending := none } := by rw [← active]
    refine Or.inl ⟨_, _, w₁, bind_of_some h _, ?_⟩
    rw [same]
    exact .coordinator active h (told_iff.mpr rfl)
  · exact Or.inr ⟨w₁, bind_of_none h _, .coordinator active h (told_iff.mpr rfl)⟩

theorem dispatch_coordinator {s : DeskSession} (active : s.speaker = .coordinator) :
    s.dispatch out message = s.askCoordinator out message := by
  unfold dispatch
  rw [active]

theorem dispatch_specialist {s : DeskSession} {role : String} {chat : Chat}
    (active : s.speaker = .specialist role) (known : lookupName role s.specialists = some chat) :
    s.dispatch out message = do
      let (turn, chat) ← chat.turn out message
      return (⟨.specialist role, message, none, turn, none⟩,
        { s with specialists := insertSorted role chat s.specialists }) := by
  unfold dispatch
  simp only [active, known]

theorem dispatch_run {s : DeskSession} (hs : s.Named) (w : World σ) :
    (∃ d s₁ w₁, s.dispatch out message deadline w = (some (d, s₁), w₁) ∧
      Hop out message deadline s w d s₁ w₁) ∨
    ∃ w₁, s.dispatch out message deadline w = (none, w₁) ∧ Silent out message deadline s w w₁ := by
  rcases active : s.speaker with _ | role
  · rw [dispatch_coordinator out message active]
    exact askCoordinator_run out message deadline w active
  · obtain ⟨chat, known⟩ := lookupName_eq_some (hs role active)
    rw [dispatch_specialist out message active known]
    rcases answers_or_not (chat.turn out message) deadline w with ⟨⟨turn, chat'⟩, w₁, h⟩ | ⟨w₁, h⟩
    · exact Or.inl ⟨_, _, w₁, bind_of_some h _, .specialist active known h⟩
    · exact Or.inr ⟨w₁, bind_of_none h _, .specialist active known h⟩

theorem startHandoff_run (s : DeskSession) (role context : String) (w : World σ) :
    (∃ s' w', s.startHandoff out role context deadline w = (some (.ok (), s'), w') ∧
      Onward out deadline s w (some (.request role context)) none s' w') ∨
    ∃ e w', s.startHandoff out role context deadline w = (some (.error e, s), w') ∧
      Stays out deadline s w (some (.request role context)) w' := by
  unfold startHandoff
  cases has : lookupName role s.specialists with
  | some chat => exact Or.inl ⟨_, w, rfl, .known has⟩
  | none =>
    obtain ⟨answer, w₁, h⟩ := answers_buildSpecialist out role s.memory deadline w
    simp only [bind_of_some h]
    cases answer with
    | ok chat => exact Or.inl ⟨_, w₁, rfl, .built has h⟩
    | error e => exact Or.inr ⟨e, w₁, rfl, .refused has h⟩

theorem act_run (s : DeskSession) {d : Dispatch} (hd : d.accepted = none) (w : World σ) :
    (∃ accepted s' w', s.act out d deadline w = (some (.goOn, { d with accepted := accepted }, s'), w') ∧
      Onward out deadline s w d.turn.outcome.signal accepted s' w') ∨
    ∃ w', s.act out d deadline w = (some (.reply d.reply, d, s), w') ∧
      Stays out deadline s w d.turn.outcome.signal w' := by
  unfold act Dispatch.reply
  simp only [orIfBlank_signalErrorText]
  cases hsig : d.turn.outcome.signal with
  | none => exact Or.inr ⟨w, rfl, .plain⟩
  | some signal =>
    cases signal with
    | malformed error args => exact Or.inr ⟨w, rfl, .malformed⟩
    | request role context =>
      simp only
      rcases startHandoff_run out deadline s role context w with ⟨s', w', h, on⟩ | ⟨e, w', h, stays⟩
      · have same : { d with accepted := none } = d := by rw [← hd]
        rw [bind_of_some h]
        refine Or.inl ⟨none, s', w', ?_, on⟩
        rw [same]
        rfl
      · rw [bind_of_some h]
        exact Or.inr ⟨w', rfl, stays⟩
    | handback result =>
      cases active : s.speaker with
      | coordinator => exact Or.inr ⟨w, rfl, .ignored active⟩
      | specialist role => exact Or.inl ⟨_, _, w, rfl, .ended active⟩

/-- **Routing is a call of the handoff machine.** -/
theorem route_ends {s : DeskSession} (hs : s.Named) (hops : Nat) (w : World σ) :
    Ends out message deadline hops s w (s.route out message hops deadline w).1
      (s.route out message hops deadline w).2 := by
  -- A handoff leaves the active specialist named, and the rest of the call needs no more than that.
  induction hops generalizing s w with
  | zero => exact .spent .nil rfl
  | succ hops ih =>
    unfold route
    rcases dispatch_run out message deadline hs w with ⟨d, s₁, w₁, hd, hop⟩ | ⟨w₁, hd, silent⟩
    · rw [bind_of_some hd]
      dsimp only
      rcases act_run out deadline s₁ hop.accepted_eq w₁ with ⟨acc, s₂, w₂, ha, on⟩ | ⟨w₂, ha, stays⟩
      · rw [bind_of_some ha]
        dsimp only
        have rest := ih on.named w₂
        rcases hr : s₂.route out message hops deadline w₂ with ⟨_ | ⟨r, s₃⟩, w₃⟩
        · rw [bind_of_none hr]
          rw [hr] at rest
          cases rest with
          | silent passes left silent => exact .silent (.cons hop on passes) (Nat.succ_lt_succ left) silent
        · rw [bind_of_some hr]
          rw [hr] at rest
          cases rest with
          | spent passes all => exact .spent (.cons hop on passes) (congrArg Nat.succ all)
          | answered passes left hop' stays last =>
            exact .answered (.cons hop on passes) (Nat.succ_lt_succ left) hop' stays last
      · rw [bind_of_some ha]
        exact .answered .nil (Nat.succ_pos _) hop stays fun _ _ _ on => on.not_stays stays
    · rw [bind_of_none hd]
      exact .silent .nil (Nat.succ_pos _) silent

end

end Concierge.DeskSession
