import Concierge.Data.Value

/-!
# Messages and contents

A conversation alternates between the user and the model. A `Message` is one line of text of either;
a `Content` is what a model sees of it, in parts: text, calls of functions and their results.
-/

namespace Concierge

open Data

inductive Role where
  | user
  | model
deriving DecidableEq, Repr, Inhabited

namespace Role

def name : Role → String
  | user => "user"
  | model => "model"

def ofName? (s : String) : Option Role :=
  if s = "user" then some user else if s = "model" then some model else none

def encode (r : Role) : Data := .str r.name

def decode? (d : Data) : Option Role := d.choice?.bind ofName?

end Role

structure Message where
  role : Role
  text : String
deriving DecidableEq, Repr, Inhabited

namespace Message

def user (text : String) : Message := ⟨.user, text⟩

def model (text : String) : Message := ⟨.model, text⟩

def encode (m : Message) : Data := .record [("role", m.role.encode), ("content", .str m.text)]

def decode? (d : Data) : Option Message := do
  match ← d.fields? [⟨"role", false⟩, ⟨"content", false⟩] with
  | [role, text] => return ⟨← required Role.decode? role, ← required Data.text? text⟩
  | _ => none

end Message

structure FunctionCall where
  name : String
  args : Value

namespace FunctionCall

def encode (c : FunctionCall) : Data := .record [("name", .str c.name), ("args", c.args.data)]

/-- Missing arguments are null. -/
def decode? (d : Data) : Option FunctionCall := do
  match ← d.fields? [⟨"name", false⟩, ⟨"args", true⟩] with
  | [name, args] =>
    return ⟨← required Data.text? name, ← orElse Value.null Value.ofData? args⟩
  | _ => none

end FunctionCall

structure FunctionResult where
  name : String
  response : Value

namespace FunctionResult

def encode (r : FunctionResult) : Data :=
  .record [("name", .str r.name), ("response", r.response.data)]

def decode? (d : Data) : Option FunctionResult := do
  match ← d.fields? [⟨"name", false⟩, ⟨"response", false⟩] with
  | [name, response] =>
    return ⟨← required Data.text? name, ← required Value.ofData? response⟩
  | _ => none

end FunctionResult

inductive Part where
  | text (s : String)
  | call (c : FunctionCall)
  | result (r : FunctionResult)

namespace Part

def text? : Part → Option String
  | text s => some s
  | _ => none

def encode : Part → Data
  | text s => .record [("text", .str s)]
  | call c => .record [("functionCall", c.encode)]
  | result r => .record [("functionResponse", r.encode)]

def decode? (d : Data) : Option Part := do
  let (kind, d) ← d.choiceOf?
  if kind = "text" then d.text?.map text
  else if kind = "functionCall" then (FunctionCall.decode? d).map call
  else if kind = "functionResponse" then (FunctionResult.decode? d).map result
  else none

end Part

structure Content where
  role : Role
  parts : List Part

namespace Content

def user (parts : List Part) : Content := ⟨.user, parts⟩

def model (parts : List Part) : Content := ⟨.model, parts⟩

def encode (c : Content) : Data :=
  .record [("role", c.role.encode), ("parts", .list (c.parts.map Part.encode))]

def decode? (d : Data) : Option Content := do
  match ← d.fields? [⟨"role", false⟩, ⟨"parts", false⟩] with
  | [role, parts] =>
    return ⟨← required Role.decode? role, ← required (listOf? Part.decode?) parts⟩
  | _ => none

end Content

def Message.content (m : Message) : Content := ⟨m.role, [.text m.text]⟩

end Concierge
