import Concierge.Dialogue.Request
import Concierge.Json.Reader
import Concierge.Json.Writer
import Concierge.Model.Error
import Concierge.Text.Blank
import Concierge.Text.Find

/-!
# Bodies of requests and replies

A request is sent as JSON. A reply holds candidates, of which the first one counts: its texts are
joined and its first function call is kept, parts that are marked as thoughts are passed over.
-/

namespace Concierge.Gemini

open Data

/-- Blank instructions and an empty list of tools are left out. -/
def requestBody (r : Request) : Data :=
  let instructions : List (String × Data) := match r.context with
    | some c =>
      if Text.blank c then []
      else [("systemInstruction", .record [("parts", .list [(Part.text c).encode])])]
    | none => []
  let tools : List (String × Data) := match r.tools with
    | some (t :: ts) => [("tools", .list ((t :: ts).map ToolOffer.encode))]
    | _ => []
  .record (instructions ++ [("contents", .list (r.contents.map Content.encode))] ++ tools)

/-! ## Replies -/

structure ReplyPart where
  text : Option String
  call : Option FunctionCall
  thought : Bool

def ReplyPart.decode? (d : Data) : Option ReplyPart := do
  match ← d.fields? [⟨"text", false⟩, ⟨"functionCall", false⟩, ⟨"thought", true⟩] with
  | [text, call, thought] =>
    return ⟨← optional Data.text? text, ← optional FunctionCall.decode? call,
      ← orElse false Data.flag? thought⟩
  | _ => none

structure Candidate where
  parts : Option (List ReplyPart)
  finishReason : Option String

def candidateParts? (d : Data) : Option (List ReplyPart) := do
  match ← d.fields? [⟨"parts", true⟩] with
  | [parts] => orElse [] (listOf? ReplyPart.decode?) parts
  | _ => none

def Candidate.decode? (d : Data) : Option Candidate := do
  match ← d.fields? [⟨"content", false⟩, ⟨"finishReason", false⟩] with
  | [content, reason] =>
    return ⟨← optional candidateParts? content, ← optional Data.text? reason⟩
  | _ => none

structure ReplyBody where
  candidates : List Candidate
  /-- Why the prompt was blocked, if there is feedback on it that says so. -/
  blockReason : Option String

def blockReason? (d : Data) : Option (Option String) := do
  match ← d.fields? [⟨"blockReason", false⟩] with
  | [reason] => optional Data.text? reason
  | _ => none

def ReplyBody.decode? (d : Data) : Option ReplyBody := do
  match ← d.fields? [⟨"candidates", true⟩, ⟨"promptFeedback", false⟩] with
  | [candidates, feedback] =>
    return ⟨← orElse [] (listOf? Candidate.decode?) candidates,
      (← optional blockReason? feedback).join⟩
  | _ => none

def joinParts (parts : List ReplyPart) : Response :=
  parts.foldl (fun r p =>
    if p.thought then r
    else ⟨r.text ++ p.text.getD "", r.call <|> p.call⟩) ⟨"", none⟩

def ReplyBody.response (b : ReplyBody) : Except ModelError Response :=
  match b.blockReason with
  | some reason => .error (.blocked reason)
  | none =>
    match b.candidates with
    | [] => .error (.unreadable "response contained no candidates")
    | c :: _ =>
      let parts := c.parts.getD []
      match parts, c.finishReason with
      | [], some reason => if reason = "STOP" then .ok (joinParts parts) else .error (.blocked reason)
      | _, _ => .ok (joinParts parts)

/-! ## Error replies -/

structure ErrorDetail where
  message : Option String
  status : Option String

def ErrorDetail.decode? (d : Data) : Option ErrorDetail := do
  match ← d.fields? [⟨"message", false⟩, ⟨"status", false⟩] with
  | [message, status] => return ⟨← optional Data.text? message, ← optional Data.text? status⟩
  | _ => none

def errorDetail? (body : String) : Option ErrorDetail := do
  match ← (← Json.read? body).fields? [⟨"error", false⟩] with
  | [detail] => (← optional ErrorDetail.decode? detail)
  | _ => none

def invalidKeyText : String := "API key not valid"

/-- The error that a reply other than a success stands for. The message is the one of the body, or
the body itself. -/
def classify (status : Nat) (body : String) (retryAfter : Option Nat) : ModelError :=
  let detail := errorDetail? body
  let message := (detail.bind ErrorDetail.message).getD body
  if status = 401 ∨ status = 403 then .auth message
  else if status = 400 then
    if (detail.bind ErrorDetail.status) = some "UNAUTHENTICATED" ∨
        Text.contains invalidKeyText.toList message.toList then .auth message
    else .badRequest message
  else if status = 429 then .rateLimited retryAfter
  else if status = 503 then .overloaded
  else .server status message

end Concierge.Gemini
