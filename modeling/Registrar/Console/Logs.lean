import Registrar.Console.Loading
import Registrar.Console.Steps
import Registrar.Startup

/-!
# Logs of a session

A request may ask for the log of a session: the records that its configuration
lets through, as lines of text or as JSON.  Identifiers are written by the names
that they have at the end of the session; the others are numbered in the order in
which the written records show them.
-/

namespace Registrar.Console

/-- What a log shows of some events. -/
def logOf (config : LogConfig) (asked : Option String) (events : List Event) :
    List LogRecord :=
  (events.map Event.record).filter (config.filter asked).accepts

def lineOf (format : LogFormat) (r : LogRecord) : Json :=
  match format with
  | .json => r.toJson
  | _ => text r.toText

/-- Writes the lines of a log with the names of a session. -/
def Names.renameLines (n : Names) (lines : List Json) : List Json :=
  let n := (lines.flatMap fun line => line.sorted.strings).foldl
    (fun n s => n.meetAll [s]) { n with strangers := [] }
  lines.map fun line => line.mapStrings (n.rename "$log")

/-- The lines that a log of the given configuration shows. -/
def writeLog (config : LogConfig) (asked : Option String) (n : Names)
    (events : List Event) : Json :=
  .arr (n.renameLines ((logOf config asked events).map (lineOf config.format)))

/-- The events of loading, and the answer to it. -/
def loading (v : Json) : Answering (List Event × List (String × Json)) :=
  match v.present? "load" with
  | none => .ok ([], [])
  | some request => do
    let m ← machine request
    let answer :=
      match m.loadAnswer with
      | .ok answer => answer
      | .error refusal => refusal.toJson
    let events :=
      match m.loader, m.load with
      | .ok loader, .ok _ => [loader.loaded]
      | _, _ => []
    return (events, [("load", answer)])

/-- The error of starting a log when there is one already. -/
def alreadyStarted : LogError :=
  .init "a global default trace dispatcher has already been set"

def logs (setup : Setup) (v : Json) : Answering Json := do
  let level ← string v "level"
  let format ← string v "format"
  let wanted : LogSettings := { level, format, colored := flag v "colored" }
  match wanted.toLogConfig with
  | .error e => return .obj [("log", .arr []), ("refused", text e.message)]
  | .ok config =>
    let (loaded, answer) ← loading v
    let (s, answers) := (Session.start setup).steps (flag v "trace") (items v "steps")
    return .obj
      ([("init", .null), ("init_again", text alreadyStarted.message),
        ("log", writeLog config (string? v "rust_log") s.names (loaded ++ s.world.events)),
        ("steps", .arr answers)] ++ answer)

end Registrar.Console
