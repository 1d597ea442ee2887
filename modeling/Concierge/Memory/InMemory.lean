import Concierge.Memory.Operation
import Concierge.Table

/-!
# Memory that lasts as long as the process

A store of records by chat id. A write makes the record of a chat that has none; once closed, every
operation fails.
-/

namespace Concierge.Memory

structure InMemory where
  records : Table ChatId ChatRecord := []
  closed : Bool := false

namespace InMemory

def record (s : InMemory) (chat : ChatId) : ChatRecord := (s.records.get? chat).getD {}

def perform {α : Type} (s : InMemory) (chat : ChatId) (op : Operation α) :
    Except MemoryError α × InMemory :=
  if s.closed then (.error .closed, s)
  else
    let (a, r) := op.apply (s.record chat)
    (.ok a, if op.writes then { s with records := s.records.put chat r } else s)

def close (s : InMemory) : InMemory := { s with closed := true }

/-- The number of chats that were written to. -/
def chatCount (s : InMemory) : Nat := s.records.length

end InMemory

end Concierge.Memory
