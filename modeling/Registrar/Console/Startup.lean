import Registrar.Console.Logs
import Registrar.Console.Migrations

/-!
# Starting up in a request

A request may start the register as a whole, with the files and the variables it
brings.  One address stands for a database that is there, whose schema is up to
date, and in which steps may have been taken before.
-/

namespace Registrar.Console

open Text

/-- The address of the database that is there, as requests write it. -/
def liveMark : List Char := "<pg>".toList

def liveAddress : String := "postgres://<pg>"

/-- Writes the address out wherever a text has the mark. -/
def withAddress (s : List Char) : List Char :=
  match s with
  | [] => []
  | c :: rest =>
    match afterPrefix? liveMark (c :: rest) with
    | some _ => liveAddress.toList ++ withAddress (rest.drop (liveMark.length - 1))
    | none => c :: withAddress rest
termination_by s.length

/-- The state of the database after some steps; a unit that they left open ends
with their connection. -/
def Session.settled (s : Session) : World :=
  { (s.handles.foldl (fun w (_, h) => w.drop h) s.world) with events := [], calls := [] }

/-- What a start leaves: how it ended, what was reported and the lines of the
error. -/
structure Started where
  exit : Nat
  log : Json := .arr []
  errors : List String := []

/-- The start after the settings are loaded. -/
def startWith (settings : Settings) (asked : Option String) (s : Session) : Started :=
  match settings.logger.toLogConfig with
  | .error e => { exit := 1, errors := Startup.notConfigured e }
  | .ok config =>
    let log (events : List Event) := writeLog config asked s.names events
    if settings.database.url ≠ liveAddress then
      { exit := 1
        log := log [.starting settings.application.name settings.application.version]
        errors := Startup.notConnected }
    else
      let w := s.settled
      let migrated := (Migration.runPending { applied := [Migration.version] }).1
      match settings.core.requestContext? w.clock with
      | none => { exit := 101 }
      | some ctx =>
        match w.run (Startup.program settings migrated ctx) with
        | .ended (.ok ()) w => { exit := 0, log := log w.events }
        | .ended (.error e) w =>
          { exit := 1, log := log w.events, errors := Startup.failed e }
        | .stuck w => { exit := 1, log := log w.events }

def startOn (m : Machine) (s : Session) : Started :=
  match m.loader with
  | .error e => { exit := 1, errors := Startup.notConfigured e }
  | .ok loader =>
    match loader.load m.files m.env with
    | .error e => { exit := 1, errors := Startup.notConfigured e }
    | .ok settings => startWith settings (m.env.lookup "RUST_LOG") s

/-- Starts the register; `setup` is a database. -/
def start (setup : Setup) (v : Json) : Answering Json := do
  let address (s : String) := String.ofList (withAddress s.toList)
  let (s, answers) := (Session.start setup).steps (flag v "trace") (items v "steps")
  let m ← machine (.obj
    [("env", (object v "env").mapStrings address),
      ("files", (object v "files").mapStrings address)])
  let started := startOn m s
  let steps := (v.present? "steps").elim [] fun _ => [("steps", Json.arr answers)]
  return .obj
    ([("exit", .int started.exit), ("log", started.log),
      ("stderr", .arr (started.errors.map text))] ++ steps)

/-! ## A single request -/

/-- A new user, read back in the context of the same request. -/
def addAndRead (ctx : Ctx) (new : NewUser) : Program User := do
  let user ← Service.addUser ctx new
  Service.userById ctx user.id

/-- Serves one request of the register: a user is added and read back. -/
def serveRequest (setup : Setup) (v : Json) : Answering Json := do
  let new ← Refusal.ofRead (NewUser.ofJson? (value v "new"))
  let s := Session.start setup
  let ctx ← s.newContext
  let (s, answer) := s.perform (addAndRead ctx new) (Session.made "user" User.id User.toJson)
  let user ← answer
  let (_, answer) := s.names.renameAnswer (.obj
    [("found", user.without Session.untold), ("in_transaction", .bool ctx.handle.isSome)])
  return answer

end Registrar.Console
