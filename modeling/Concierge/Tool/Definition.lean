import Concierge.Tool.Toolbox

/-!
# How the tools describe themselves to a model
-/

namespace Concierge.Tool

def parameter (type description : String) : Value :=
  .ofMembers [("type", .str type), ("description", .str description)]

def strings (ss : List String) : Value := .ofData (.list (ss.map Data.str))

def oneOf (description : String) (values : List String) : Value :=
  .ofMembers [("type", .str "string"), ("description", .str description), ("enum", strings values)]

def schema (properties : List (String × Value)) (required : List String) : Value :=
  .ofMembers ([("type", .str "object"), ("properties", .ofMembers properties)] ++
    if required.isEmpty then [] else [("required", strings required)])

def requestHandoffDefinition (roles : List String) : ToolDefinition where
  name := requestHandoffName
  description :=
    "Hand the conversation over to a specialist agent. The specialist will talk to the user " ++
     "directly until it ends the sub-conversation. Use this when the user's request needs a " ++
     "specialist's expertise over several turns."
  parameters := schema
    [("specialist_role", oneOf "Role of the specialist to hand the conversation to" roles),
      ("initial_context", parameter "string"
        ("Everything the specialist needs to know to take over: the user's goal and relevant " ++
          "details gathered so far"))]
    ["specialist_role", "initial_context"]

def endHandoffDefinition : ToolDefinition where
  name := endHandoffName
  description :=
    "End the current sub-conversation and hand the user back to the coordinator. Call this when " ++
     "your task is complete, cannot be completed, or the user asks for something outside your role."
  parameters := schema
    [("status", oneOf "Outcome of the sub-conversation"
        ["completed", "cancelled", "failed", "out_of_scope"]),
      ("final_result", parameter "object" "Structured result of the work done"),
      ("last_user_message", parameter "string" "The user's most recent message, verbatim"),
      ("message_to_coordinator", parameter "string" "Optional note for the coordinator")]
    ["status", "final_result", "last_user_message"]

def delegateDefinition (roles : List String) : ToolDefinition where
  name := delegateName
  description :=
    "Delegate a self-contained task to a specialist agent and get its answer back in this same " ++
     "turn. The specialist does not see this conversation, so the task description must include " ++
     "every detail it needs. Available specialists: " ++ ", ".intercalate roles ++ "."
  parameters := schema
    [("specialist_role", oneOf "Role of the specialist to delegate to" roles),
      ("task_description", parameter "string" "Complete, self-contained description of the task")]
    ["specialist_role", "task_description"]

def rememberDefinition : ToolDefinition where
  name := rememberName
  description :=
    "Remember a fact for the rest of this conversation and future ones, e.g. the user's name or " ++
     "preferences. Overwrites an existing fact with the same key."
  parameters := schema
    [("key", parameter "string" "Short snake_case key"),
      ("value", parameter "string" "The fact to remember")]
    ["key", "value"]

def lookUpDefinition : ToolDefinition where
  name := lookUpName
  description :=
    "Recall a previously remembered fact by key. Without a key, returns every remembered fact."
  parameters := schema [("key", parameter "string" "Key of the fact to recall")] []

def definition (roles : Directory → List String) : Tool → ToolDefinition
  | outside _ d => d
  | requestHandoff directory => requestHandoffDefinition (roles directory)
  | endHandoff => endHandoffDefinition
  | delegate => delegateDefinition (roles .registry)
  | remember _ => rememberDefinition
  | lookUp _ => lookUpDefinition

end Concierge.Tool

namespace Concierge.Toolbox

def definitions (roles : Directory → List String) (b : Toolbox) : List ToolDefinition :=
  b.tools.map (·.definition roles)

end Concierge.Toolbox
