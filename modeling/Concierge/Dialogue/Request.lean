import Concierge.Dialogue.Message

/-!
# Requests to a model and its responses

A request holds the instructions, the conversation so far, the prompt of the new turn and the tools
on offer. A response is text with at most one call of a function; without a call it is final.
-/

namespace Concierge

open Data

structure ToolDefinition where
  name : String
  description : String
  parameters : Value

namespace ToolDefinition

def encode (t : ToolDefinition) : Data :=
  .record [("name", .str t.name), ("description", .str t.description),
    ("parameters", t.parameters.data)]

def decode? (d : Data) : Option ToolDefinition := do
  match ← d.fields? [⟨"name", false⟩, ⟨"description", false⟩, ⟨"parameters", false⟩] with
  | [name, description, parameters] =>
    return ⟨← required Data.text? name, ← required Data.text? description,
      ← required Value.ofData? parameters⟩
  | _ => none

end ToolDefinition

inductive ToolOffer where
  | functions (definitions : List ToolDefinition)
  | search

namespace ToolOffer

def encode : ToolOffer → Data
  | functions ts => .record [("functionDeclarations", .list (ts.map ToolDefinition.encode))]
  | search => .record [("googleSearch", .record [])]

def decode? (d : Data) : Option ToolOffer := do
  let (kind, d) ← d.choiceOf?
  if kind = "functionDeclarations" then (listOf? ToolDefinition.decode? d).map functions
  else if kind = "googleSearch" then (d.fields? []).map fun _ => search
  else none

def isFunctions : ToolOffer → Bool
  | functions _ => true
  | search => false

def isSearch : ToolOffer → Bool
  | functions _ => false
  | search => true

end ToolOffer

structure Request where
  context : Option String
  history : List Content
  prompt : List Part
  tools : Option (List ToolOffer)

namespace Request

/-- The conversation with the prompt as the last turn of the user, unless it is empty. -/
def contents (r : Request) : List Content :=
  if r.prompt.isEmpty then r.history else r.history ++ [.user r.prompt]

def promptText (r : Request) : String :=
  "\n".intercalate (r.prompt.filterMap Part.text?)

def offersFunctions (r : Request) : Bool := (r.tools.getD []).any ToolOffer.isFunctions

def offersSearch (r : Request) : Bool := (r.tools.getD []).any ToolOffer.isSearch

end Request

structure Response where
  text : String
  call : Option FunctionCall := none

def Response.isFinal (r : Response) : Bool := r.call.isNone

end Concierge
