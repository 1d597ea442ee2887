import Concierge.Data.Value
import Concierge.Json.Writer

/-!
# Signals

A tool may answer with a signal to the desk that routes the conversation: to hand it to a
specialist, to hand it back with a result, or that such a request was malformed. Signals are never
shown to the user.
-/

namespace Concierge

open Data

structure Handback where
  status : String
  finalResult : Value
  lastUserMessage : String
  message : Option String

namespace Handback

def members (h : Handback) : List (String × Data) :=
  [("status", .str h.status), ("final_result", h.finalResult.data),
    ("last_user_message", .str h.lastUserMessage)] ++
    match h.message with
    | some m => [("message_to_coordinator", .str m)]
    | none => []

def encode (h : Handback) : Data := .record h.members

def decode? (d : Data) : Option Handback := do
  match ← d.fields? [⟨"status", false⟩, ⟨"final_result", false⟩, ⟨"last_user_message", false⟩,
      ⟨"message_to_coordinator", true⟩] with
  | [status, result, last, message] =>
    return ⟨← required Data.text? status, ← required Value.ofData? result,
      ← required Data.text? last, ← optional Data.text? message⟩
  | _ => none

end Handback

inductive Signal where
  | request (role initialContext : String)
  | handback (result : Handback)
  /-- A signalling tool was called with unusable arguments. -/
  | malformed (error : String) (args : Value)

namespace Signal

def kind : Signal → String
  | request .. => "REQUEST_SUB_CONVERSATION"
  | handback _ => "END_SUB_CONVERSATION"
  | malformed .. => "SIGNAL_ERROR"

def members : Signal → List (String × Data)
  | request role context => [("specialist_role", .str role), ("initial_context", .str context)]
  | handback result => result.members
  | malformed error args => [("error", .str error), ("originalArgs", args.data)]

/-- The name of the kind comes first. -/
def encode (s : Signal) : Data := .record (("_signal_type", .str s.kind) :: s.members)

def ofKind? (kind : String) (d : Data) : Option Signal :=
  if kind = "REQUEST_SUB_CONVERSATION" then do
    match ← d.fields? [⟨"specialist_role", false⟩, ⟨"initial_context", false⟩] with
    | [role, context] => return request (← required Data.text? role) (← required Data.text? context)
    | _ => none
  else if kind = "END_SUB_CONVERSATION" then (Handback.decode? d).map handback
  else if kind = "SIGNAL_ERROR" then do
    match ← d.fields? [⟨"error", false⟩, ⟨"originalArgs", false⟩] with
    | [error, args] =>
      return malformed (← required Data.text? error) (← required Value.ofData? args)
    | _ => none
  else none

/-- The kind is a member of the record, or the first item where the fields have no names. -/
def decode? (d : Data) : Option Signal := do
  let _ ← d.canonicalize?
  match d with
  | .record ms => ofKind? (← (← named? ms "_signal_type").bind Data.text?) d
  | .list (.str kind :: fields) => ofKind? kind (.list fields)
  | _ => none

def text (s : Signal) : String := Json.compact s.encode

def isMalformed : Signal → Bool
  | malformed .. => true
  | _ => false

end Signal

end Concierge
