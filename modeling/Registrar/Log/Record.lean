import Registrar.Event
import Registrar.Json.Form
import Registrar.Json.Printer
import Registrar.Log.Config

/-!
# Log records

An event becomes a record with a level, the part of the register that reports
it, a message and fields.  A record is written as one line: its level to the
right of five places, where it comes from, the message and the fields; or as one
JSON object.
-/

namespace Registrar

/-- The value of a field: shown as it is, quoted, or counted. -/
inductive LogValue where
  | shown (s : String)
  | quoted (s : String)
  | count (n : Nat)
  deriving DecidableEq

structure LogRecord where
  level : LogLevel
  target : String
  message : String
  fields : List (String × LogValue)
  deriving DecidableEq

namespace LogValue

def id (u : Uuid) : LogValue := .shown u.toText

def error (e : AppError) : LogValue := .shown e.message

def toText : LogValue → String
  | .shown s => s
  | .quoted s => Json.quote s
  | .count n => String.ofList (Text.digits n)

def toJson : LogValue → Json
  | .shown s => .str s
  | .quoted s => .str s
  | .count n => .int n

end LogValue

namespace LogTarget

def root : String := "campus_rs"
def catalog : String := "campus_rs::services::catalog_service"
def identity : String := "campus_rs::services::identity"
def provisioning : String := "campus_rs::services::provisioning"
def guardians : String := "campus_rs::services::guardian_service"
def relations : String := "campus_rs::services::hydrator"
def units : String := "campus_rs::db::unit_of_work"
def settings : String := "campus_rs::config::loader"

end LogTarget

open LogValue in
/-- How an event is reported. -/
def Event.record : Event → LogRecord
  | .organizationCreated u =>
    ⟨.info, LogTarget.catalog, "Organization created", [("id", .id u)]⟩
  | .schoolCreated u organization =>
    ⟨.info, LogTarget.catalog, "School created",
      [("id", .id u), ("organization_id", .id organization)]⟩
  | .groupCreated u school =>
    ⟨.info, LogTarget.catalog, "Group created",
      [("id", .id u), ("school_id", .id school)]⟩
  | .userCreated u => ⟨.info, LogTarget.identity, "User created", [("user_id", .id u)]⟩
  | .roleAssigned user role grant =>
    ⟨.debug, LogTarget.identity, "Role assigned",
      [("user_id", .id user), ("role", .shown role.word), ("role_id", .id grant)]⟩
  | .unitOpened u =>
    ⟨.debug, LogTarget.units, "Unit of work opened", [("tx_id", .id u)]⟩
  | .unitCommitted u =>
    ⟨.debug, LogTarget.units, "Unit of work committed", [("tx_id", .id u)]⟩
  | .unitRolledBack u e =>
    ⟨.warn, LogTarget.units, "Unit of work rolled back",
      [("tx_id", .id u), ("error", .error e)]⟩
  | .commitFailed u e =>
    ⟨.error, LogTarget.units, "Commit failed", [("tx_id", .id u), ("error", .error e)]⟩
  | .rollbackFailed u e cause =>
    ⟨.error, LogTarget.units, "Rollback failed",
      [("tx_id", .id u), ("error", .error e), ("cause", .error cause)]⟩
  | .profileProvisioned kind u user role =>
    ⟨.info, LogTarget.provisioning, "Profile provisioned",
      [("entity", .quoted kind.entity), ("id", .id u), ("user_id", .id user),
        ("role_id", .id role)]⟩
  | .guardianAssigned u user student =>
    ⟨.info, LogTarget.guardians, "Guardian assigned",
      [("id", .id u), ("user_id", .id user), ("student_id", .id student)]⟩
  | .relationsResolved counts =>
    ⟨.debug, LogTarget.relations, "Resolved relations",
      [("users", .count counts.users), ("schools", .count counts.schools),
        ("organizations", .count counts.organizations), ("groups", .count counts.groups),
        ("students", .count counts.students)]⟩
  | .settingsLoaded environment source =>
    ⟨.debug, LogTarget.settings, "Configuration loaded",
      [("environment", .shown environment), ("source", .shown source)]⟩
  | .starting name version =>
    ⟨.info, LogTarget.root, "Starting", [("name", .shown name), ("version", .shown version)]⟩
  | .migrationsApplied n =>
    ⟨.info, LogTarget.root, "Migrations applied", [("applied", .count n)]⟩
  | .profileTotals totals =>
    ⟨.info, LogTarget.root, "Profile totals",
      totals.map fun (kind, n) => (kind.entity, .count n)⟩

namespace LogRecord

/-- A record as one line of text. -/
def toText (r : LogRecord) : String :=
  let level := r.level.capitals
  let places := String.ofList (List.replicate (5 - level.length) ' ')
  let fields := r.fields.map fun (name, v) => " " ++ name ++ "=" ++ v.toText
  places ++ level ++ " " ++ r.target ++ ": " ++ r.message ++ String.join fields

def toJson (r : LogRecord) : Json :=
  .obj
    [("fields", .obj (("message", .str r.message) ::
        r.fields.map fun (name, v) => (name, v.toJson))),
      ("level", .str r.level.capitals), ("target", .str r.target)]

end LogRecord

end Registrar
