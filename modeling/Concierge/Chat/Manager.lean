import Concierge.Chat.Basic

/-!
# Chats by session

A manager keeps a chat for each session. The chat is made when its session is first used. Sessions
have no memory, share one, or each open stores of their own, which are closed with the session.
-/

namespace Concierge

variable {σ : Type}

inductive MemoryMode where
  | none
  | shared (memory : Adapters)
  /-- What the next new session opens for itself. -/
  | perSession (plan : StorePlan)
deriving DecidableEq, Repr

namespace MemoryMode

def forNewSession : MemoryMode → Run σ Adapters
  | none => pure {}
  | shared memory => pure memory
  | perSession plan => .modifyGet (World.openAll plan)

def closeSession (out : Outside σ) (memory : Adapters) : MemoryMode → Run σ Unit
  | perSession _ => .modify (World.closeAll out memory)
  | _ => pure ()

/-- Close everything, given the memory of the sessions there were. -/
def close (out : Outside σ) (sessions : List Adapters) : MemoryMode → Run σ Unit
  | none => pure ()
  | shared memory => .modify (World.closeAll out memory)
  | perSession _ => .modify fun w => sessions.foldl (fun w memory => World.closeAll out memory w) w

end MemoryMode

structure ChatManager where
  config : ChatConfig
  provider : Provider
  tools : Toolbox := {}
  registry : Bool := false
  memory : MemoryMode := .none
  sessions : Table String Chat := []

namespace ChatManager

def chat (out : Outside σ) (m : ChatManager) (session : String) : Run σ (Chat × ChatManager) :=
  match m.sessions.get? session with
  | some chat => pure (chat, m)
  | none => do
    let memory ← m.memory.forNewSession
    let chat ← Chat.build out m.config m.provider m.tools memory m.registry
    return (chat, { m with sessions := m.sessions.put session chat })

def setChat (m : ChatManager) (session : String) (chat : Chat) : ChatManager :=
  { m with sessions := m.sessions.put session chat }

def process (out : Outside σ) (m : ChatManager) (session message : String) :
    Run σ (String × ChatManager) := do
  let (chat, m) ← m.chat out session
  let (turn, chat) ← chat.turn out message
  return (turn.outcome.text, m.setChat session chat)

def endSession (out : Outside σ) (m : ChatManager) (session : String) :
    Run σ (Bool × ChatManager) :=
  match m.sessions.get? session with
  | none => pure (false, m)
  | some chat => do
    m.memory.closeSession out chat.memory
    return (true, { m with sessions := m.sessions.erase session })

def shutdown (out : Outside σ) (m : ChatManager) : Run σ ChatManager := do
  m.memory.close out (m.sessions.map (·.2.memory))
  return { m with sessions := [] }

end ChatManager

end Concierge
