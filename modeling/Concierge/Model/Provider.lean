import Concierge.Gemini.Client
import Concierge.Model.Error
import Concierge.Text.Blank

/-!
# Clients of a model

A provider answers requests for one model. Providers are created by a backend: the outside world
decides whether a model exists there, the Gemini service takes any model with a name.
-/

namespace Concierge

inductive Backend where
  | outside
  | gemini (client : Gemini.Client)

structure Provider where
  backend : Backend
  model : String
  /-- Tells apart the providers that a registry has created. -/
  serial : Nat

def Gemini.checkModel (model : String) : Except ModelError Unit :=
  if Text.blank model then .error (.badRequest "model id must not be empty") else .ok ()

end Concierge
