import Registrar.Settings.Error
import Registrar.Text.Lowercase

/-!
# Deployment environments

The environment chooses the middle layer of the configuration files.
-/

namespace Registrar

inductive Environment where
  | development | test | staging | production
  deriving DecidableEq, Inhabited

namespace Environment

open Text

def word : Environment → String
  | .development => "development"
  | .test => "test"
  | .staging => "staging"
  | .production => "production"

def all : List Environment :=
  [.development, .test, .staging, .production]

/-- The environment with exactly this word. -/
def ofWord? (s : String) : Option Environment :=
  all.find? fun e => e.word == s

/-- The words for an environment, in lowercase. -/
def names : List (String × Environment) :=
  [("development", .development), ("dev", .development), ("test", .test),
    ("staging", .staging), ("stage", .staging), ("production", .production),
    ("prod", .production)]

/-- Reads a word for an environment in any case. -/
def read (s : String) : Except ConfigError Environment :=
  match names.lookup (String.ofList (lowercase s.toList)) with
  | some e => .ok e
  | none =>
    .error (.invalidVariable ConfigError.environmentVariable s
      "development, test, staging, production")

/-- The environment that the variable names, development if it is unset or
names none. -/
def ofVariable (value : Option String) : Environment :=
  match value.map read with
  | some (.ok e) => e
  | _ => .development

end Environment

end Registrar
