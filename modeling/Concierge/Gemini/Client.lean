import Concierge.Gemini.Retry

/-!
# Clients of the Gemini service
-/

namespace Concierge.Gemini

/-- What a client needs to reach the service. A timeout is in milliseconds and holds for each
attempt. -/
structure Client where
  apiKey : String
  baseUrl : String
  timeout : Option Nat := none
  retry : RetryPolicy := {}

namespace Client

/-- Slashes at the end of the base address are dropped. -/
def make (apiKey baseUrl : String) (timeout : Option Nat) (retry : RetryPolicy) : Client :=
  ⟨apiKey, String.ofList ((baseUrl.toList.reverse.dropWhile (· = '/')).reverse), timeout, retry⟩

end Client

end Concierge.Gemini
