import Registrar.Log.Filter
import Registrar.Service.Profiles
import Registrar.Settings.Loader

/-!
# Starting up

The register starts in steps: it loads its settings, reports its name, brings the
schema up to date if the settings say so, and counts the profiles of each kind.
The first step that fails ends it with a report of the error and its sources.
-/

namespace Registrar

/-- Where settings come from, as the log shows it. -/
def ConfigSource.describe : ConfigSource → String
  | .layered dir => "Layered(" ++ Json.quote dir.display ++ ")"
  | .singleFile file => "SingleFile(" ++ Json.quote file.display ++ ")"

/-- What is reported when settings have been loaded. -/
def ConfigLoader.loaded (l : ConfigLoader) : Event :=
  .settingsLoaded l.environment.word l.source.describe

/-- The context of one request: its deadline lies as many seconds ahead as the
settings allow, if the clock can show it. -/
def CoreSettings.requestContext? (c : CoreSettings) (now : Instant) : Option Ctx :=
  Ctx.background.withTimeout? now (c.requestTimeout * 1000000000)

namespace Service

/-- The number of profiles of each of the given kinds. -/
def countKinds (ctx : Ctx) : List ProfileKind → Program (List (ProfileKind × Nat))
  | [] => return []
  | kind :: rest => do
    let n ← countProfiles ctx kind {}
    let totals ← countKinds ctx rest
    return (kind, n) :: totals

end Service

namespace Startup

/-- The steps after the settings are loaded; `migrate` runs the pending
migrations. -/
def program (s : Settings) (migrate : Result Nat) (ctx : Ctx) : Program Unit := do
  Program.report (.starting s.application.name s.application.version)
  if s.database.autoMigrate then
    let applied ← Program.ofResult migrate
    Program.report (.migrationsApplied applied)
  let totals ← Service.countKinds ctx ProfileKind.all
  Program.report (.profileTotals totals)

/-! ## The report of an error -/

def indented (first others : String) (message : String) : List String :=
  match Text.splitAt '\n' message.toList with
  | [] => [first]
  | line :: more =>
    (first ++ String.ofList line) :: more.map fun line => others ++ String.ofList line

/-- The causes with their numbers, to the right of five places. -/
def numbered : Nat → List String → List String
  | _, [] => []
  | n, cause :: rest =>
    let number := Text.digits n
    let places := List.replicate (5 - number.length) ' '
    indented (String.ofList (places ++ number ++ [':', ' '])) "       " cause ++
      numbered (n + 1) rest

/-- The lines of a report: the error, and below it its causes, from the outside
in; they have numbers unless there is only one. -/
def report (message : String) (causes : List String) : List String :=
  let head := indented "Error: " "" message
  match causes with
  | [] => head
  | [cause] => head ++ ["", "Caused by:"] ++ indented "    " "    " cause
  | causes => head ++ ["", "Caused by:"] ++ numbered 0 causes

def notConfigured (e : ConfigError) : List String :=
  report "Failed to load configuration" [e.message]

/-- No connection to the database can be made. -/
def notConnected : List String :=
  report "Failed to create database pool" ["Connection pool error"]

def failed (e : AppError) : List String :=
  report e.message e.chain

end Startup

end Registrar
