import Concierge.Memory.Error
import Concierge.Registry.Error
import Concierge.Settings.Error
import Concierge.Tool.Error

/-!
# Failures of any part

A failure names the part that it comes from in front of that part's own text. The registry has no
words of its own to put there.
-/

namespace Concierge

inductive Failure where
  | model (e : ModelError)
  | tool (e : ToolError)
  | settings (e : SettingsError)
  | memory (e : MemoryError)
  | registry (e : RegistryError)
  | io (reason : String)
  | other (text : String)
deriving DecidableEq, Repr

namespace Failure

def reason : Failure → String
  | model e => e.message
  | tool e => e.message
  | settings e => e.message
  | memory e => e.message
  | registry e => e.message
  | io reason => reason
  | other text => text

def label : Failure → String
  | model _ => "API error: "
  | tool _ => "Tool error: "
  | settings _ => "Configuration error: "
  | memory _ => "Memory error: "
  | io _ => "I/O error: "
  | registry _ | other _ => ""

def message (f : Failure) : String := f.label ++ f.reason

end Failure

end Concierge
