import Registrar.Error

/-!
# Configuration errors

What can go wrong while settings are located, merged and checked.  The key of an
error is the setting or the variable that it is about.
-/

namespace Registrar

inductive ConfigError where
  | fileNotFound (path : String)
  | nonUtf8Path (path : String)
  | deserialize
  | validation (field message : String)
  | invalidVariable (source value expected : String)
  | conflictingSources
  | build
  deriving DecidableEq, Inhabited

namespace ConfigError

def directoryVariable : String := "CAMPUS_CONFIG_DIR"
def fileVariable : String := "CAMPUS_CONFIG_FILE"
def environmentVariable : String := "CAMPUS_APP_ENV"

/-- The message of an error; that of a malformed source is cut short. -/
def message : ConfigError → String
  | .fileNotFound path => "Required configuration file not found: " ++ path
  | .nonUtf8Path path => "Configuration path is not valid UTF-8: " ++ path
  | .deserialize => "Failed to deserialize configuration"
  | .validation field message => "Validation error: " ++ field ++ " - " ++ message
  | .invalidVariable source value expected =>
    "Invalid " ++ source ++ " value '" ++ value ++ "'. Valid values are: " ++
      expected
  | .conflictingSources =>
    directoryVariable ++ " and " ++ fileVariable ++
      " cannot both be set. Use " ++ directoryVariable ++
      " for layered configuration or " ++ fileVariable ++
      " for a single configuration file."
  | .build => "Failed to build configuration"

def key : ConfigError → Option String
  | .validation field _ => some field
  | .invalidVariable source _ _ => some source
  | _ => none

/-- The name of the cause. -/
def name : ConfigError → String
  | .fileNotFound _ => "FileNotFound"
  | .nonUtf8Path _ => "NonUtf8Path"
  | .deserialize => "Deserialize"
  | .validation _ _ => "ValidationError"
  | .invalidVariable _ _ _ => "InvalidEnvVar"
  | .conflictingSources => "ConflictingSources"
  | .build => "Build"

/-- The error of the register for a configuration error. -/
def toAppError (e : ConfigError) : AppError :=
  .configuration (e.key.getD "settings") [e.message]

end ConfigError

end Registrar
