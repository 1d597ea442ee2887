import Concierge.Proofs.Handoff.Transcript
import Concierge.Proofs.Storage

/-!
# Handing a message on leaves no trace

Of all the turns on a message only the last can leave entries in a transcript, and it leaves none if
its signal speaks of a handoff. What a working store keeps of the session's chats changes in the same
way (`only_last_turn_recorded`).
-/

namespace Concierge

open Run

variable {σ : Type}

namespace DeskSession

/-! ## What a turn leaves -/

/-- What an agent records of its turn: what it was given and its text, unless that is empty. -/
def Dispatch.entries (x : Dispatch) : List Message :=
  match x.turn.outcome.signal with
  | none | some (.malformed ..) =>
    .user x.prompt :: if x.turn.outcome.text = "" then [] else [.model x.turn.outcome.text]
  | some (.request ..) | some (.handback _) => []

def recordedBy (y : Speaker) (ds : List Dispatch) : List Message :=
  ds.flatMap fun x => if x.receiver = y then x.entries else []

theorem Dispatch.messagesOf_eq (x : Dispatch) : Chat.messagesOf x.prompt x.turn.outcome = x.entries := by
  unfold Chat.messagesOf Chat.handsOff entries
  rcases x.turn.outcome.signal with _ | _ | _ | _ <;> simp

theorem Dispatch.entries_eq_nil_iff (x : Dispatch) :
    x.entries = [] ↔ Chat.handsOff x.turn.outcome = true := by
  unfold Chat.handsOff entries
  rcases x.turn.outcome.signal with _ | _ | _ | _ <;> simp

theorem recordedBy_append (y : Speaker) (ds ds' : List Dispatch) :
    recordedBy y (ds ++ ds') = recordedBy y ds ++ recordedBy y ds' := List.flatMap_append

theorem recordedBy_concat (y : Speaker) (ds : List Dispatch) (x : Dispatch) :
    recordedBy y (ds ++ [x]) = recordedBy y ds ++ if x.receiver = y then x.entries else [] := by
  simp [recordedBy]

theorem recordedBy_eq_nil {y : Speaker} {ds : List Dispatch} (h : ∀ x ∈ ds, x.entries = []) :
    recordedBy y ds = [] := by
  unfold recordedBy
  rw [List.flatMap_eq_nil_iff]
  intro x hx
  simp [h x hx]

/-! ## In the transcripts -/

section
variable {out : Outside σ} {message : String} {deadline : Option Nat} {s s₁ : DeskSession}
  {w w₁ : World σ} {d : Dispatch} {ds : List Dispatch} {hops : Nat} {r : Routed}

theorem Passes.entries_eq_nil (h : Passes out message deadline s w ds s₁ w₁) : ∀ x ∈ ds, x.entries = [] := by
  induction h with
  | nil => simp
  | cons hop on _ ih =>
    intro x hx
    rcases List.mem_cons.mp hx with rfl | hx
    · exact (Dispatch.entries_eq_nil_iff _).mpr on.handsOff
    · exact ih x hx

theorem Ends.recorded (h : Ends out message deadline hops s w (some (r, s₁)) w₁) (y : Speaker) :
    s₁.transcript y = s.transcript y ++ recordedBy y r.dispatches := by
  cases h with
  | spent passes _ =>
    rw [recordedBy_eq_nil passes.entries_eq_nil, List.append_nil, ← passes.transcript_eq]
    cases y <;> rfl
  | @answered ds s₂ w₂ d _ _ _ passes _ hop _ _ =>
    rw [hop.transcript_eq, passes.transcript_eq, Dispatch.messagesOf_eq, recordedBy_concat,
      recordedBy_eq_nil passes.entries_eq_nil]
    simp [eq_comm]

theorem Ends.recordedBy_eq (hops_pos : 0 < hops) (h : Ends out message deadline hops s w (some (r, s₁)) w₁) :
    ∃ x, r.dispatches.getLast? = some x ∧
      ∀ y, recordedBy y r.dispatches = if y = x.receiver then x.entries else [] := by
  cases h with
  | @spent ds _ _ passes all =>
    have ne : ds ≠ [] := by
      rintro rfl
      simp at all
      omega
    have found := List.getLast?_eq_some_getLast ne
    refine ⟨ds.getLast ne, found, fun y => ?_⟩
    rw [recordedBy_eq_nil passes.entries_eq_nil, passes.entries_eq_nil _ (List.getLast_mem ne), ite_self]
  | @answered ds _ _ d _ _ _ passes _ _ _ _ =>
    refine ⟨d, List.getLast?_concat, fun y => ?_⟩
    rw [recordedBy_concat, recordedBy_eq_nil passes.entries_eq_nil]
    simp [eq_comm]

end

/-! ## In the stores -/

def chat? (s : DeskSession) : Speaker → Option Chat
  | .coordinator => some s.coordinator
  | .specialist role => lookupName role s.specialists

def filedUnder (s : DeskSession) (y : Speaker) (store : StoreId) (k : ChatId) : Bool :=
  (s.chat? y).any fun chat => chat.filedUnder store k

section
variable {out : Outside σ} {message : String} {deadline : Option Nat} {s s₁ : DeskSession}
  {w w₁ : World σ} {d : Dispatch} {ds : List Dispatch} {hops : Nat} {r : Routed} {signal : Option Signal}
  {accepted : Option Pending} {store : StoreId} {calm works : World σ → Prop}
  (hs : Working out store calm works)
include hs

theorem Hop.adds (h : Hop out message deadline s w d s₁ w₁) :
    World.Adds out store calm works (fun k => if s₁.filedUnder d.receiver store k then d.entries else [])
      w w₁ := by
  cases h with
  | coordinator _ taken =>
    refine (Chat.turn_adds hs taken).congr fun k => ?_
    rw [Chat.turn_chat taken, ← Dispatch.messagesOf_eq]
    simp [filedUnder, chat?, Chat.filedUnder]
  | specialist _ _ taken =>
    refine (Chat.turn_adds hs taken).congr fun k => ?_
    rw [Chat.turn_chat taken, ← Dispatch.messagesOf_eq]
    simp [filedUnder, chat?, Chat.filedUnder, lookupName_insertSorted]

theorem Passes.adds (h : Passes out message deadline s w ds s₁ w₁) :
    World.Adds out store calm works (fun _ => []) w w₁ := by
  induction h with
  | nil => exact hs.drift.refl _
  | cons hop on _ ih =>
    have silent := (Dispatch.entries_eq_nil_iff _).mpr on.handsOff
    have handed := on.along hs.agentDrift
    exact (((hop.adds hs).trans handed).trans ih).congr fun k => by simp [silent]

theorem Ends.adds (h : Ends out message deadline hops s w (some (r, s₁)) w₁) {x : Dispatch}
    (last : r.dispatches.getLast? = some x) :
    World.Adds out store calm works (fun k => if s₁.filedUnder x.receiver store k then x.entries else [])
      w w₁ := by
  cases h with
  | spent passes _ =>
    have silent := passes.entries_eq_nil x (List.mem_of_getLast? last)
    exact (passes.adds hs).congr fun k => by simp [silent]
  | answered passes _ hop stays _ =>
    rw [List.getLast?_concat, Option.some.injEq] at last
    subst last
    have stayed := stays.along hs.agentDrift
    exact (((passes.adds hs).trans (hop.adds hs)).trans stayed).congr fun k => by simp

end

end DeskSession

def Rehearsal.deskWithDiary : Desk :=
  { deskOfDuo with memory := .perSession { conversation := some .memory } }

namespace Desk

open DeskSession

/-- **Only the last turn on a message leaves a trace.** It adds its entries to the transcript of the
agent that took it and to what a working store keeps of that agent. Nothing else is added to any
transcript, in this session or another. -/
theorem only_last_turn_recorded {out : Outside σ} {d d' : Desk} {w w' : World σ} {log : String → List Entry}
    {id message : String} {deadline : Option Nat} {r : Routed} (reached : Course out d w log)
    (routed : d.route out id message deadline w = (some (r, d'), w')) :
    ∃ s d₀ w₀ s' x, Opens out deadline d id w s d₀ w₀ ∧ d'.sessions.get? id = some s' ∧
      (∀ j, j ≠ id → d'.sessions.get? j = d.sessions.get? j) ∧ r.dispatches.getLast? = some x ∧
      (∀ y, s'.transcript y = s.transcript y ++ if y = x.receiver then x.entries else []) ∧
      ∀ store calm works, Working out store calm works → calm w₀ → works w' → works w₀ ∧
        ∀ k, w'.stored out store k = (w₀.stored out store k).map
          (· ++ if s'.filedUnder x.receiver store k then x.entries else []) := by
  obtain ⟨s, d₀, w₀, s', opens, ends, rfl⟩ :=
    route_eq_some (fun opens => (reached.coherent_opened opens).named) routed
  obtain ⟨x, last, recorded⟩ := ends.recordedBy_eq (Nat.succ_pos _)
  refine ⟨s, d₀, w₀, s', x, opens, ?_, fun j other => ?_, last, fun y => ?_, ?_⟩
  · rw [opens.get?_keep, if_pos rfl]
  · rw [opens.get?_keep, if_neg other]
  · rw [ends.recorded, recorded]
  · intro store calm works hs quiet ok
    exact (ends.adds hs last quiet).2 ok

open Rehearsal in
theorem only_last_turn_recorded_sums :
    ∃ r d w s d₀ w₀ s' x k before, deskWithDiary.route Stage.outside "s" "6*7?" none sums = (some (r, d), w) ∧
      r.dispatches.length = 3 ∧ Opens Stage.outside none deskWithDiary "s" sums s d₀ w₀ ∧
      d.sessions.get? "s" = some s' ∧ r.dispatches.getLast? = some x ∧ x.entries.length = 2 ∧
      (∀ y, s'.transcript y = s.transcript y ++ if y = x.receiver then x.entries else []) ∧
      s'.filedUnder x.receiver ⟨0⟩ k = true ∧ w₀.stored Stage.outside ⟨0⟩ k = some before ∧
      w.stored Stage.outside ⟨0⟩ k = some (before ++ x.entries) := by
  let k : ChatId := ⟨0xC0DE0000000040008000000000000000⟩
  obtain ⟨⟨r, d⟩, w, run, seen⟩ := answer_of_seen (deskWithDiary.route Stage.outside "s" "6*7?") none sums
    (fun y w => (y.1.dispatches.length, decide (w.OpenInMemory ⟨0⟩), y.1.dispatches.getLast?.map fun x =>
      (x.entries.length, (y.2.sessions.get? "s").map fun s => s.filedUnder x.receiver ⟨0⟩ k)))
    (show _ = some (3, true, some (2, some true)) by decide +kernel)
  simp only [Prod.mk.injEq] at seen
  obtain ⟨turns, inMemory, ended⟩ := seen
  obtain ⟨s, d₀, w₀, s', x, opens, kept, -, last, recorded, stored⟩ :=
    only_last_turn_recorded (.opened rfl) run
  simp only [last, kept, Option.map_some, Option.some.injEq, Prod.mk.injEq] at ended
  have works := working_inMemory Stage.outside ⟨0⟩
  obtain ⟨before, gained⟩ := stored ⟨0⟩ _ _ works trivial (of_decide_eq_true inMemory)
  obtain ⟨ms, had⟩ := works.reads w₀ k before
  refine ⟨r, d, w, s, d₀, w₀, s', x, k, ms, run, turns, opens, kept, last, ended.1, recorded, ended.2, had, ?_⟩
  simp [gained k, had, ended.2]

end Desk

end Concierge
