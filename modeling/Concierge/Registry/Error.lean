import Concierge.Model.Error

/-!
# Why there is no agent for a role
-/

namespace Concierge

inductive RegistryError where
  | unknownRole (role : String) (available : List String)
  | noClient (model : String) (cause : ModelError)
deriving DecidableEq, Repr

def unknownRoleText (role : String) (available : List String) : String :=
  "Unknown specialist role '" ++ role ++ "'. Available roles: " ++ ", ".intercalate available

def RegistryError.message : RegistryError → String
  | unknownRole role available => unknownRoleText role available
  | noClient model cause => "Failed to create model client for '" ++ model ++ "': " ++ cause.message

end Concierge
