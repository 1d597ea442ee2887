import Concierge.Memory.Error
import Concierge.Memory.Record

/-!
# What is done with a record

Every operation on the memory of a chat reads its record or replaces it. `apply` says what the
operation answers and what becomes of the record; a store has to find the record and keep it.
-/

namespace Concierge.Memory

/-- The three kinds of memory; each can be kept by a store of its own. -/
inductive Track where
  | conversation
  | facts
  | summaries
deriving DecidableEq, Repr

inductive Operation : Type → Type where
  | append (m : Message) : Operation Unit
  | history : Operation (List Message)
  | clear : Operation Unit
  | setFact (key : String) (v : Value) : Operation Unit
  | fact? (key : String) : Operation (Option Value)
  | allFacts : Operation Facts
  | addSummary (s : Summary) : Operation Unit
  | latest? : Operation (Option String)
  | summaries (limit : Option Nat) : Operation (List Summary)

namespace Operation

def writes {α : Type} : Operation α → Bool
  | append _ | clear | setFact .. | addSummary _ => true
  | _ => false

def apply {α : Type} : Operation α → ChatRecord → α × ChatRecord
  | append m, r => ((), { r with messages := r.messages ++ [m] })
  | history, r => (r.messages, r)
  | clear, r => ((), { r with messages := [] })
  | setFact k v, r => ((), { r with facts := insertSorted k v r.facts })
  | fact? k, r => (lookupName k r.facts, r)
  | allFacts, r => (r.facts, r)
  | addSummary s, r => ((), { r with summaries := r.summaries ++ [s] })
  | latest?, r => (r.latest?.map Summary.content, r)
  | summaries limit, r => (r.newestFirst limit, r)

theorem apply_of_not_writes {α : Type} {op : Operation α} (h : op.writes = false)
    (r : ChatRecord) : (op.apply r).2 = r := by
  cases op <;> simp [writes] at h <;> rfl

end Operation

end Concierge.Memory
