/-!
# Why a model gives no response
-/

namespace Concierge

inductive ModelError where
  | auth (reason : String)
  | badRequest (reason : String)
  | rateLimited (retryAfter : Option Nat)
  | overloaded
  | server (status : Nat) (reason : String)
  | network (reason : String)
  | unreadable (reason : String)
  | blocked (reason : String)
  | timeout
deriving DecidableEq, Repr

namespace ModelError

def retryText : Option Nat → String
  | none => "None"
  | some n => "Some(" ++ toString n ++ ")"

def message : ModelError → String
  | auth reason => "Authentication failed: " ++ reason
  | badRequest reason => "Bad request: " ++ reason
  | rateLimited after => "Rate limited (retry after " ++ retryText after ++ "ms)"
  | overloaded => "Server overloaded"
  | server status reason => "Server error: " ++ toString status ++ " " ++ reason
  | network reason => "Network error: " ++ reason
  | unreadable reason => "Response parse error: " ++ reason
  | blocked reason => "Prompt blocked: " ++ reason
  | timeout => "Request timeout"

def isTransient : ModelError → Bool
  | rateLimited _ | overloaded | server .. | network _ | timeout => true
  | _ => false

end ModelError

end Concierge
