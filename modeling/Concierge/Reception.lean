import Concierge.Handoff.Desk

/-!
# The reception

Messages are received either by a desk that hands conversations over or by one agent alone. Both
can be asked who is answering in a session.
-/

namespace Concierge

variable {σ : Type}

namespace DeskSession

def roles (s : DeskSession) : List String := s.specialists.map (·.1)

def status (s : DeskSession) : String :=
  "Active: " ++ s.speaker.text ++
    (if s.roles.isEmpty then ""
      else " (specialists in session: " ++ ", ".intercalate s.roles ++ ")") ++
    if s.pending.isSome then " [result pending for coordinator]" else ""

end DeskSession

def Chat.status (c : Chat) : String :=
  "Active: single agent, routing disabled" ++
    match c.id with
    | some id => " (chat " ++ id.text ++ ")"
    | none => ""

inductive Reception where
  | desk (d : Desk)
  | single (m : ChatManager)

namespace Reception

def process (out : Outside σ) (session message : String) : Reception → Run σ (String × Reception)
  | desk d => do
    let (reply, d) ← d.process out session message
    return (reply, desk d)
  | single m => do
    let (reply, m) ← m.process out session message
    return (reply, single m)

/-- Who is answering in a session. A single agent takes up the session to say so. -/
def status (out : Outside σ) (session : String) : Reception → Run σ (String × Reception)
  | desk d =>
    pure (((d.sessions.get? session).map DeskSession.status).getD "No active session yet.", desk d)
  | single m => do
    let (chat, m) ← m.chat out session
    return (chat.status, single m)

def endSession (out : Outside σ) (session : String) : Reception → Run σ (Bool × Reception)
  | desk d => do
    let (ended, d) ← d.endSession out session
    return (ended, desk d)
  | single m => do
    let (ended, m) ← m.endSession out session
    return (ended, single m)

def shutdown (out : Outside σ) : Reception → Run σ Reception
  | desk d => do return desk (← d.shutdown out)
  | single m => do return single (← m.shutdown out)

end Reception

end Concierge
