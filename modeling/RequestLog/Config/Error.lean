import RequestLog.Output.IoError

/-!
Why a configuration cannot be used.
-/

namespace RequestLog

inductive ConfigError where
  | read (path : String) (cause : IoError)
  | malformed
  | missingField (part field : String)
  | invalidValue (part field message : String)
  | target (path : String) (cause : IoError)
deriving DecidableEq, Repr

namespace ConfigError

def shapeFault : String := "not a TOML document of the expected shape"

def message : ConfigError → String
  | .read path cause => "cannot read '" ++ path ++ "': " ++ cause.message
  | .malformed => "malformed config: " ++ shapeFault
  | .missingField part field => part ++ " is missing required field '" ++ field ++ "'"
  | .invalidValue part field text => part ++ " has invalid " ++ field ++ ": " ++ text
  | .target path cause => "cannot open access log target '" ++ path ++ "': " ++ cause.message

end ConfigError

end RequestLog
