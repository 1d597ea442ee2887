import Concierge.Memory.FileStore
import Concierge.Memory.InMemory
import Concierge.Registry.Basic
import Concierge.Tool.Error

/-!
# The world around the agents

What the library does not decide is asked of the `Outside`: how models and tools answer, whether a
model exists, what a server replies, which chat id is drawn next, what time it is. Its state is of
any type. The `World` joins it with what agents share: the clock, the registry, the stores and the
folder of the file stores.
-/

namespace Concierge

/-- An answer that comes after some milliseconds, or never. -/
inductive Timed (α : Type) where
  | after (delay : Nat) (a : α)
  | never

structure HttpRequest where
  host : String
  target : String
  headers : List (String × String)
  body : String
deriving DecidableEq, Repr

/-- A reply of a server; the body is none if it cannot be read. -/
structure HttpReply where
  status : Nat
  headers : List (String × String)
  body : Option String
deriving DecidableEq, Repr

/-- How everything answers that the library does not decide. -/
structure Outside (σ : Type) where
  createModel : String → σ → Except ModelError Unit × σ
  generate : Provider → Request → σ → Timed (Except ModelError Response) × σ
  callTool : Nat → Value → ToolContext → σ → Timed (Except ToolError ToolOutput) × σ
  postedRoles : σ → List String
  /-- A reply, or why there is none. -/
  send : HttpRequest → σ → Timed (Except String HttpReply) × σ
  /-- A number between 0.75 and 1.25. -/
  jitter : σ → Float × σ
  drawChatId : σ → ChatId × σ
  now : σ → Instant × σ
  access : {α : Type} → Nat → ChatId → Memory.Operation α → σ → Except MemoryError α × σ
  closeStore : Nat → σ → Except MemoryError Unit × σ

/-- A store of the memory; one that is kept outside goes by a number. -/
inductive Store where
  | memory (s : Memory.InMemory)
  | file (s : Memory.FileStore)
  | outside (key : Nat)

structure World (σ : Type) where
  outside : σ
  /-- Milliseconds since the start. -/
  clock : Nat := 0
  registry : Registry := {}
  stores : List Store := []
  folder : Memory.Folder := {}

end Concierge
