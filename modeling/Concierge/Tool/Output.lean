import Concierge.Handoff.Signal

/-!
# What a tool answers

A tool answers with text for the model, perhaps marked as an error, and perhaps with a signal.
-/

namespace Concierge

open Data

structure ToolOutput where
  content : String
  isError : Bool
  signal : Option Signal := none

namespace ToolOutput

def text (s : String) : ToolOutput := ⟨s, false, none⟩

def error (s : String) : ToolOutput := ⟨s, true, none⟩

/-- A string as it is, any other value as JSON. -/
def value (v : Value) : ToolOutput := text (v.text?.getD (Json.compact v.data))

def ofSignal (s : Signal) : ToolOutput := ⟨s.text, s.isMalformed, some s⟩

def encode (o : ToolOutput) : Data :=
  .record ([("content", .str o.content), ("is_error", .bool o.isError)] ++
    match o.signal with
    | some s => [("signal", s.encode)]
    | none => [])

def decode? (d : Data) : Option ToolOutput := do
  match ← d.fields? [⟨"content", false⟩, ⟨"is_error", false⟩, ⟨"signal", false⟩] with
  | [content, isError, signal] =>
    return ⟨← required Data.text? content, ← required Data.flag? isError,
      ← optional Signal.decode? signal⟩
  | _ => none

end ToolOutput

/-- Who calls a tool: the role of the agent and the chat it is in, if any. -/
structure ToolContext where
  role : String
  chat : Option String := none

end Concierge
