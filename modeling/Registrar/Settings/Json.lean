import Registrar.Json.Form
import Registrar.Settings

/-!
# Settings as JSON
-/

namespace Registrar

/-- JSON values are read strictly: no value is taken for one of another type. -/
def Json.reader : ValueReader Json where
  record names v :=
    (Json.Form.read? names v).map fun form name =>
      match form.slot name with
      | .given v => some v
      | _ => none
  text := Json.str?
  nat bound v := (v.intWithin? 0 bound).map Int.toNat
  flag := Json.bool?

def Settings.ofJson? (v : Json) : Option Settings :=
  Json.reader.settings v

def Json.ofNat (n : Nat) : Json := .int n

def Settings.toJson (s : Settings) : Json :=
  .obj
    [("application", .obj
        [("name", .str s.application.name),
          ("version", .str s.application.version)]),
      ("database", .obj
        [("url", .str s.database.url),
          ("max_connections", Json.ofNat s.database.maxConnections),
          ("min_connections", Json.ofNat s.database.minConnections),
          ("connection_timeout", Json.ofNat s.database.connectionTimeout),
          ("auto_migrate", .bool s.database.autoMigrate)]),
      ("logger", .obj
        [("level", .str s.logger.level), ("format", .str s.logger.format),
          ("colored", .bool s.logger.colored)]),
      ("core", .obj
        [("request_timeout", Json.ofNat s.core.requestTimeout)])]

end Registrar
