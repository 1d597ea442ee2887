/-!
# Why a tool fails
-/

namespace Concierge

inductive ToolError where
  | unknown (name : String)
  | invalidInput (tool reason : String)
  | failed (reason : String)
  | timeout (limit : Nat)
deriving DecidableEq, Repr

def ToolError.message : ToolError → String
  | unknown name => "Unknown tool: " ++ name
  | invalidInput tool reason => "Invalid input for tool '" ++ tool ++ "': " ++ reason
  | failed reason => "Tool execution failed: " ++ reason
  | timeout limit => "Tool timed out after " ++ toString limit ++ "ms"

end Concierge
