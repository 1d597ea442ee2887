import Concierge.Memory.ChatId

/-!
# Why memory fails
-/

namespace Concierge

inductive MemoryError where
  | closed
  | corrupt (chat : ChatId) (reason : String)
  | io (reason : String)
  | serialization (reason : String)
  | backend (reason : String)
deriving DecidableEq, Repr

def MemoryError.message : MemoryError → String
  | closed => "Store is closed"
  | corrupt chat reason => "Corrupt record for chat " ++ chat.text ++ ": " ++ reason
  | io reason => "I/O error: " ++ reason
  | serialization reason => "Serialization error: " ++ reason
  | backend reason => "Backend error: " ++ reason

end Concierge
