import Concierge.Dialogue.Request
import Concierge.Model.Provider
import Concierge.Text.Blank
import Concierge.Tool.Definition

/-!
# Agents

An agent answers as a model under a role, with an objective, a context and a set of tools.
-/

namespace Concierge

/-- The bounds of one turn. Timeouts are in milliseconds, for each call. -/
structure Limits where
  maxIterations : Nat := 10
  modelTimeout : Option Nat := some 120000
  toolTimeout : Option Nat := some 60000
deriving DecidableEq, Repr

/-- At least one call of the model is allowed. -/
def Limits.calls (l : Limits) : Nat := max 1 l.maxIterations

structure Agent where
  role : String
  objective : String
  context : String
  task : Option String := none
  provider : Provider
  tools : Toolbox := {}
  search : Bool := false
  limits : Limits := {}
  thinking : Bool := false

namespace Agent

def appendParagraph (text extra : String) : String :=
  if Text.blank extra then text
  else if text.isEmpty then Text.trim extra
  else text ++ "\n\n" ++ Text.trim extra

def appendContext (a : Agent) (extra : String) : Agent :=
  { a with context := appendParagraph a.context extra }

def labelled (label value : String) : List String :=
  if Text.blank value then [] else [label ++ ": " ++ Text.trim value]

def instructions (a : Agent) : String :=
  let context := Text.trim a.context
  "\n\n".intercalate ((if context.isEmpty then [] else [context]) ++
    labelled "Role" a.role ++ labelled "Objective" a.objective)

/-- The tools on offer. Search is offered only by an agent without tools of its own. -/
def offer (roles : Directory → List String) (a : Agent) : Option (List ToolOffer) :=
  if !a.tools.isEmpty then some [.functions (a.tools.definitions roles)]
  else if a.search then some [.search]
  else none

end Agent

end Concierge
