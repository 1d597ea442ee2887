import Concierge.Memory.Operation
import Mathlib.Data.List.Induction
import Mathlib.Logic.Function.Basic

/-!
# What a store has to do

A store remembers of each chat its messages, the value of each fact and its summaries. `Reference` says
what its operations make of these and what they answer, without a word on how anything is kept. A
`Ledger` keeps a record for each chat and does the same with it (`Ledger.Tells.answers`).
-/

namespace Concierge

open Memory

namespace Instant

theorem le_trans {a b c : Instant} (h : a.le b = true) (h' : b.le c = true) : a.le c = true := by
  simp only [le, Bool.or_eq_true, Bool.and_eq_true, decide_eq_true_eq] at h h' ⊢
  omega

theorem le_total (a b : Instant) : (a.le b || b.le a) = true := by
  simp only [le, Bool.or_eq_true, Bool.and_eq_true, decide_eq_true_eq]
  omega

theorem le_of_not_le {a b : Instant} (h : ¬ a.le b = true) : b.le a = true := by
  have either := le_total a b
  rw [Bool.or_eq_true] at either
  exact either.resolve_left h

theorem le_refl (a : Instant) : a.le a = true := by simpa using le_total a a

end Instant

namespace Memory

def Operation.track {α : Type} : Operation α → Track
  | append _ | history | clear => .conversation
  | setFact .. | fact? _ | allFacts => .facts
  | addSummary _ | latest? | summaries _ => .summaries

/-- What happens to a store: an operation is performed, it is closed for one of its tracks, or it is
opened anew. -/
inductive Event : Type 1
  | perform {α : Type} (chat : ChatId) (op : Operation α)
  | close (track : Track)
  | reopen

/-! ## The reference -/

structure Reference where
  messages : ChatId → List Message := fun _ => []
  facts : ChatId → String → Option Value := fun _ _ => none
  summaries : ChatId → List Summary := fun _ => []
  closed : Bool := false

def Latest (ss : List Summary) (s : Summary) : Prop :=
  ∃ before after, ss = before ++ s :: after ∧ (∀ x ∈ before, x.time.le s.time = true) ∧
    ∀ x ∈ after, ¬ s.time.le x.time = true

/-- The summaries by descending time, those of one time in the order in which they came. -/
structure NewestFirst (ss sorted : List Summary) : Prop where
  perm : sorted.Perm ss
  descending : sorted.Pairwise fun a b => b.time.le a.time = true
  stable : ∀ time, sorted.filter (·.time = time) = ss.filter (·.time = time)

namespace Reference

def perform (m : Reference) (chat : ChatId) {α : Type} : Operation α → Reference
  | .append x => { m with messages := Function.update m.messages chat (m.messages chat ++ [x]) }
  | .clear => { m with messages := Function.update m.messages chat [] }
  | .setFact key v =>
    { m with facts := Function.update m.facts chat (Function.update (m.facts chat) key (some v)) }
  | .addSummary s => { m with summaries := Function.update m.summaries chat (m.summaries chat ++ [s]) }
  | .history | .fact? _ | .allFacts | .latest? | .summaries _ => m

/-- Whatever track it is closed for, the store is closed; opened anew it has what it had. -/
def step (m : Reference) : Event → Reference
  | .perform chat op => if m.closed then m else m.perform chat op
  | .close _ => { m with closed := true }
  | .reopen => { m with closed := false }

def after (es : List Event) : Reference := es.foldl step {}

def Gives (m : Reference) (chat : ChatId) {α : Type} : Operation α → α → Prop
  | .append _, _ | .clear, _ | .setFact .., _ | .addSummary _, _ => True
  | .history, ms => ms = m.messages chat
  | .fact? key, v => v = m.facts chat key
  | .allFacts, fs => ascending (fs.map (·.1)) = true ∧ ∀ key, lookupName key fs = m.facts chat key
  | .latest?, none => m.summaries chat = []
  | .latest?, some text => ∃ s, Latest (m.summaries chat) s ∧ text = s.content
  | .summaries none, ss => NewestFirst (m.summaries chat) ss
  | .summaries (some n), ss => ∃ sorted, NewestFirst (m.summaries chat) sorted ∧ ss = sorted.take n

def Answers (m : Reference) (chat : ChatId) {α : Type} (op : Operation α) (answer : Except MemoryError α) :
    Prop :=
  if m.closed then answer = .error .closed else ∃ a, answer = .ok a ∧ m.Gives chat op a

end Reference

/-! ## Summaries of a record -/

theorem Latest.concat {ss : List Summary} {b s : Summary} (h : Latest ss b) :
    Latest (ss ++ [s]) (if b.time.le s.time then s else b) := by
  obtain ⟨before, after, rfl, older, later⟩ := h
  by_cases overtaken : b.time.le s.time = true
  · rw [if_pos overtaken]
    refine ⟨before ++ b :: after, [], by simp, fun x hx => ?_, by simp⟩
    rcases List.mem_append.mp hx with hx | hx
    · exact Instant.le_trans (older x hx) overtaken
    · rcases List.mem_cons.mp hx with rfl | hx
      · exact overtaken
      · exact Instant.le_trans (Instant.le_of_not_le (later x hx)) overtaken
  · rw [if_neg overtaken]
    refine ⟨before, after ++ [s], by simp, older, fun x hx => ?_⟩
    rcases List.mem_append.mp hx with hx | hx
    · exact later x hx
    · rw [List.mem_singleton.mp hx]
      exact overtaken

theorem latest?_eq (r : ChatRecord) :
    (r.latest? = none ∧ r.summaries = []) ∨ ∃ s, r.latest? = some s ∧ Latest r.summaries s := by
  unfold ChatRecord.latest?
  generalize r.summaries = ss
  -- Each summary is compared with the best of those before it, hence the induction from the end.
  induction ss using List.reverseRecOn with
  | nil => exact .inl ⟨rfl, rfl⟩
  | append_singleton ss s ih =>
    right
    rw [List.foldl_append]
    rcases ih with ⟨none, rfl⟩ | ⟨b, best, latest⟩
    · rw [none]
      exact ⟨s, rfl, [], [], rfl, by simp, by simp⟩
    · rw [best]
      refine ⟨_, ?_, latest.concat⟩
      by_cases overtaken : b.time.le s.time = true <;> simp [overtaken]

theorem newestFirst_mergeSort (ss : List Summary) :
    NewestFirst ss (ss.mergeSort fun a b => b.time.le a.time) := by
  have trans (a b c : Summary) (h : b.time.le a.time = true) (h' : c.time.le b.time = true) :
      c.time.le a.time = true := Instant.le_trans h' h
  have total (a b : Summary) : (b.time.le a.time || a.time.le b.time) = true := Instant.le_total _ _
  refine ⟨List.mergeSort_perm _ _, List.pairwise_mergeSort trans total ss, fun time => ?_⟩
  -- The summaries of one time are in order already, and sorting keeps such a part as it is.
  have same : (ss.filter (·.time = time)).Pairwise fun a b => b.time.le a.time = true := by
    rw [List.pairwise_filter]
    refine List.pairwise_of_forall fun a b ha hb => ?_
    rw [decide_eq_true_eq] at ha hb
    rw [ha, hb]
    exact Instant.le_refl time
  have kept := (List.sublist_mergeSort trans total same List.filter_sublist).filter (·.time = time)
  rw [List.filter_filter] at kept
  simp only [Bool.and_self] at kept
  exact (kept.eq_of_length ((List.mergeSort_perm ss _).filter _).length_eq.symm).symm

/-! ## Ledgers -/

structure Ledger where
  records : ChatId → ChatRecord := fun _ => {}
  closed : Bool := false

namespace Ledger

def answer (l : Ledger) (chat : ChatId) {α : Type} (op : Operation α) : Except MemoryError α :=
  if l.closed then .error .closed else .ok (op.apply (l.records chat)).1

def step (l : Ledger) : Event → Ledger
  | .perform chat op =>
    if l.closed then l
    else { l with records := Function.update l.records chat (op.apply (l.records chat)).2 }
  | .close _ => { l with closed := true }
  | .reopen => { l with closed := false }

def after (es : List Event) : Ledger := es.foldl step {}

structure Tells (l : Ledger) (m : Reference) : Prop where
  messages : ∀ chat, (l.records chat).messages = m.messages chat
  ascending : ∀ chat, ascending ((l.records chat).facts.map (·.1)) = true
  facts : ∀ chat key, lookupName key (l.records chat).facts = m.facts chat key
  summaries : ∀ chat, (l.records chat).summaries = m.summaries chat
  closed : l.closed = m.closed

variable {l : Ledger} {m : Reference}

theorem tells_empty : ({} : Ledger).Tells {} := ⟨fun _ => rfl, fun _ => rfl, fun _ _ => rfl, fun _ => rfl, rfl⟩

theorem Tells.perform (h : l.Tells m) (chat : ChatId) {α : Type} (op : Operation α) :
    { l with records := Function.update l.records chat (op.apply (l.records chat)).2 }.Tells (m.perform chat op) := by
  have still (same : (op.apply (l.records chat)).2 = l.records chat) (idle : m.perform chat op = m) :
      { l with records := Function.update l.records chat (op.apply (l.records chat)).2 }.Tells (m.perform chat op) := by
    rw [same, Function.update_eq_self, idle]
    exact h
  cases op with
  | history | fact? _ | allFacts | latest? | summaries _ => exact still rfl rfl
  | append x =>
    refine ⟨fun k => ?_, fun k => ?_, fun k key => ?_, fun k => ?_, h.closed⟩ <;>
      by_cases same : k = chat <;>
        simp [same, Operation.apply, Reference.perform, h.messages, h.ascending, h.facts, h.summaries]
  | clear =>
    refine ⟨fun k => ?_, fun k => ?_, fun k key => ?_, fun k => ?_, h.closed⟩ <;>
      by_cases same : k = chat <;>
        simp [same, Operation.apply, Reference.perform, h.messages, h.ascending, h.facts, h.summaries]
  | setFact name v =>
    refine ⟨fun k => ?_, fun k => ?_, fun k key => ?_, fun k => ?_, h.closed⟩ <;>
      by_cases same : k = chat <;>
        simp [same, Operation.apply, Reference.perform, h.messages, h.ascending, h.facts, h.summaries,
          ascending_insertSorted, lookupName_insertSorted, Function.update_apply]
  | addSummary s =>
    refine ⟨fun k => ?_, fun k => ?_, fun k key => ?_, fun k => ?_, h.closed⟩ <;>
      by_cases same : k = chat <;>
        simp [same, Operation.apply, Reference.perform, h.messages, h.ascending, h.facts, h.summaries]

theorem Tells.step (h : l.Tells m) (e : Event) : (l.step e).Tells (m.step e) := by
  cases e with
  | perform chat op =>
    unfold Ledger.step Reference.step
    dsimp only
    rw [← h.closed]
    by_cases closed : l.closed = true
    · rw [if_pos closed, if_pos closed]
      exact h
    · rw [if_neg closed, if_neg closed]
      exact h.perform chat op
  | close _ => exact ⟨h.messages, h.ascending, h.facts, h.summaries, rfl⟩
  | reopen => exact ⟨h.messages, h.ascending, h.facts, h.summaries, rfl⟩

theorem tells_after (es : List Event) : (after es).Tells (.after es) := by
  unfold after Reference.after
  have start := tells_empty
  generalize ({} : Ledger) = l at start
  generalize ({} : Reference) = m at start
  induction es generalizing l m with
  | nil => exact start
  | cons e es ih => exact ih (l.step e) (m.step e) (start.step e)

theorem Tells.answers (h : l.Tells m) (chat : ChatId) {α : Type} (op : Operation α) :
    m.Answers chat op (l.answer chat op) := by
  unfold Reference.Answers answer
  rw [h.closed]
  cases m.closed with
  | true => rfl
  | false =>
    refine ⟨_, rfl, ?_⟩
    cases op with
    | append _ | clear | setFact _ _ | addSummary _ => trivial
    | history => exact h.messages chat
    | fact? key => exact h.facts chat key
    | allFacts => exact ⟨h.ascending chat, h.facts chat⟩
    | latest? =>
      dsimp only [Operation.apply]
      rcases latest?_eq (l.records chat) with ⟨none, empty⟩ | ⟨s, found, latest⟩
      · rw [none]
        exact (h.summaries chat).symm.trans empty
      · rw [found]
        exact ⟨s, h.summaries chat ▸ latest, rfl⟩
    | summaries limit =>
      have sorted := newestFirst_mergeSort (l.records chat).summaries
      rw [h.summaries] at sorted
      dsimp only [Operation.apply]
      unfold ChatRecord.newestFirst
      rw [h.summaries]
      cases limit with
      | none => exact sorted
      | some n => exact ⟨_, sorted, rfl⟩

/-! ## What does not matter to an answer -/

theorem apply_apart {α β : Type} {op : Operation α} {op' : Operation β}
    (apart : op'.track ≠ op.track ∨ op'.writes = false) (r : ChatRecord) :
    (op.apply (op'.apply r).2).1 = (op.apply r).1 := by
  cases op' <;> cases op <;> first | rfl | simp [Operation.track, Operation.writes] at apart

theorem answer_apart {α β : Type} {chat chat' : ChatId} {op : Operation α} {op' : Operation β}
    (apart : chat' ≠ chat ∨ op'.track ≠ op.track ∨ op'.writes = false) :
    (l.step (.perform chat' op')).answer chat op = l.answer chat op := by
  unfold answer step
  by_cases closed : l.closed = true
  · simp [closed]
  · simp only [closed, Bool.false_eq_true, if_false, Function.update_apply]
    by_cases same : chat = chat'
    · rw [if_pos same, ← same, apply_apart (apart.resolve_left fun ne => ne same.symm)]
    · rw [if_neg same]

theorem closed_foldl {es : List Event} (closed : l.closed = true) (shut : Event.reopen ∉ es) :
    (es.foldl step l).closed = true := by
  induction es generalizing l with
  | nil => exact closed
  | cons e es ih =>
    rw [List.mem_cons, not_or] at shut
    refine ih ?_ shut.2
    cases e with
    | perform chat op =>
      unfold step
      simp [closed]
    | close _ => rfl
    | reopen => exact absurd rfl shut.1

end Ledger

end Memory

end Concierge
