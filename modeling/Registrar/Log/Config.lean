import Registrar.Text.Lowercase

/-!
# The configuration of the log

A log has a level, below which events are not written, and a format for its
lines.  Words for both are read in any case.
-/

namespace Registrar

inductive LogLevel where
  | trace | debug | info | warn | error
  deriving DecidableEq, Inhabited

inductive LogFormat where
  | full | compact | json
  deriving DecidableEq, Inhabited

inductive LogError where
  | config (message : String)
  | init (message : String)
  deriving DecidableEq

def LogError.message : LogError → String
  | .config message => "Configuration error: " ++ message
  | .init message => "Subscriber initialization failed: " ++ message

namespace LogLevel

open Text

def word : LogLevel → String
  | .trace => "trace"
  | .debug => "debug"
  | .info => "info"
  | .warn => "warn"
  | .error => "error"

/-- The level as lines and answers show it. -/
def capitals : LogLevel → String
  | .trace => "TRACE"
  | .debug => "DEBUG"
  | .info => "INFO"
  | .warn => "WARN"
  | .error => "ERROR"

def all : List LogLevel := [.trace, .debug, .info, .warn, .error]

/-- How much a level says; an event is written if its level says no more than
the level of the log. -/
def verbosity : LogLevel → Nat
  | .error => 1
  | .warn => 2
  | .info => 3
  | .debug => 4
  | .trace => 5

def read? (s : String) : Option LogLevel :=
  all.find? fun l => l.word.toList == lowercase s.toList

def refusal (s : String) : String :=
  "Invalid log level '" ++ s ++ "'. Valid levels are: trace, debug, info, warn, error"

end LogLevel

namespace LogFormat

open Text

def word : LogFormat → String
  | .full => "full"
  | .compact => "compact"
  | .json => "json"

def all : List LogFormat := [.full, .compact, .json]

def ofWord? (s : String) : Option LogFormat :=
  all.find? fun f => f.word == s

def read? (s : String) : Option LogFormat :=
  all.find? fun f => f.word.toList == lowercase s.toList

def refusal (s : String) : String :=
  "Invalid log format '" ++ s ++ "'. Valid formats are: full, compact, json"

def read (s : String) : Except LogError LogFormat :=
  match read? s with
  | some f => .ok f
  | none => .error (.config (refusal s))

end LogFormat

/-- The level keeps its text; colours are used only on a terminal. -/
structure LogConfig where
  level : String := "info"
  format : LogFormat := .full
  colored : Bool := true
  deriving DecidableEq

namespace LogConfig

def parseLevel (c : LogConfig) : Except LogError LogLevel :=
  match LogLevel.read? c.level with
  | some l => .ok l
  | none => .error (.config (LogLevel.refusal c.level))

/-- A configuration whose level is one. -/
def make (level : String) (format : LogFormat) (colored : Bool) :
    Except LogError LogConfig :=
  let c : LogConfig := { level, format, colored }
  c.parseLevel.map fun _ => c

end LogConfig

end Registrar
