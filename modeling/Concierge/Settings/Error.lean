/-!
# Why the settings cannot be used
-/

namespace Concierge

inductive SettingsError where
  | unparsable (path reason : String)
  | missing (key : String)
  | invalid (key reason : String)
deriving DecidableEq, Repr

def SettingsError.message : SettingsError → String
  | unparsable path reason => "Config file parse error at " ++ path ++ ": " ++ reason
  | missing key => "Missing required configuration: " ++ key
  | invalid key reason => "Invalid configuration value for '" ++ key ++ "': " ++ reason

end Concierge
