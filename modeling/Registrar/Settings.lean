import Registrar.Log.Config
import Registrar.Settings.Environment
import Registrar.Text.Digits
import Registrar.Text.Pieces

/-!
# Settings

The settings of the register in four sections, each field with a default.  They
are checked section by section, and the first failed check is reported.
-/

namespace Registrar

structure ApplicationSettings where
  name : String := "campus-rs"
  version : String := "0.1.0"
  deriving DecidableEq, Inhabited

/-- Timeouts are in seconds. -/
structure DatabaseSettings where
  url : String := ""
  maxConnections : Nat := 10
  minConnections : Nat := 1
  connectionTimeout : Nat := 30
  autoMigrate : Bool := false
  deriving DecidableEq, Inhabited

structure LogSettings where
  level : String := "info"
  format : String := "full"
  colored : Bool := true
  deriving DecidableEq, Inhabited

structure CoreSettings where
  requestTimeout : Nat := 30
  deriving DecidableEq, Inhabited

structure Settings where
  application : ApplicationSettings := {}
  database : DatabaseSettings := {}
  logger : LogSettings := {}
  core : CoreSettings := {}
  deriving DecidableEq, Inhabited

namespace DatabaseSettings

open Text

def schemes : List String := ["postgres://", "postgresql://"]

def hasScheme (url : String) : Bool :=
  schemes.any fun scheme => (afterPrefix? scheme.toList url.toList).isSome

def check (d : DatabaseSettings) : Except ConfigError Unit :=
  if d.url = "" then
    .error (.validation "database.url"
      "Database URL is required. Please specify a valid database connection string.")
  else if !hasScheme d.url then
    .error (.validation "database.url"
      ("Invalid database URL format. " ++
        "Expected format: postgres://[user:password@]host[:port]/database"))
  else if d.maxConnections = 0 then
    .error (.validation "database.max_connections"
      "Max connections must be greater than 0.")
  else if d.minConnections = 0 then
    .error (.validation "database.min_connections"
      "Min connections must be greater than 0.")
  else if d.maxConnections < d.minConnections then
    .error (.validation "database.min_connections"
      ("Min connections (" ++ String.ofList (digits d.minConnections) ++
        ") cannot exceed max connections (" ++
        String.ofList (digits d.maxConnections) ++ ")."))
  else .ok ()

end DatabaseSettings

namespace LogSettings

open Text

/-- The words that the check knows; those that the log is configured with are a list
of their own. -/
def levels : List String := ["trace", "debug", "info", "warn", "error"]

def formats : List String := ["full", "compact", "json"]

def isListed (words : List String) (s : String) : Bool :=
  words.contains (String.ofList (lowercase s.toList))

def check (l : LogSettings) : Except ConfigError Unit :=
  if !isListed levels l.level then
    .error (.validation "logger.level"
      ("Invalid log level '" ++ l.level ++ "'. Valid levels are: " ++
        ", ".intercalate levels))
  else if !isListed formats l.format then
    .error (.validation "logger.format"
      ("Invalid log format '" ++ l.format ++ "'. Valid formats are: " ++
        ", ".intercalate formats))
  else .ok ()

/-- The configuration of the log; here the format is looked at first. -/
def toLogConfig (l : LogSettings) : Except ConfigError LogConfig :=
  match LogFormat.read l.format with
  | .error e => .error (.validation "logger.format" e.message)
  | .ok format =>
    match LogConfig.make l.level format l.colored with
    | .error e => .error (.validation "logger.level" e.message)
    | .ok c => .ok c

end LogSettings

def CoreSettings.check (c : CoreSettings) : Except ConfigError Unit :=
  if c.requestTimeout = 0 then
    .error (.validation "core.request_timeout"
      "Request timeout must be greater than 0 seconds.")
  else .ok ()

def Settings.check (s : Settings) : Except ConfigError Unit := do
  s.database.check
  s.logger.check
  s.core.check

/-! ## Reading

Settings are read from values of any sort that has records and scalars.  A field
that is not there has its default; one that is there must have its type. -/

/-- How values are read: a record gives the value of each of the named fields
that it holds, and a number must not exceed the given bound. -/
structure ValueReader (β : Type) where
  record : List String → β → Option (String → Option β)
  text : β → Option String
  nat : Nat → β → Option Nat
  flag : β → Option Bool

namespace ValueReader

variable {β : Type} {α : Type}

def maxNat32 : Nat := 4294967295
def maxNat64 : Nat := 18446744073709551615

/-- A field that may be missing. -/
def field (get : String → Option β) (name : String) (default : α)
    (read : β → Option α) : Option α :=
  match get name with
  | some v => read v
  | none => some default

def application (r : ValueReader β) (v : β) : Option ApplicationSettings := do
  let default : ApplicationSettings := {}
  let get ← r.record ["name", "version"] v
  let name ← field get "name" default.name r.text
  let version ← field get "version" default.version r.text
  return { name, version }

def database (r : ValueReader β) (v : β) : Option DatabaseSettings := do
  let default : DatabaseSettings := {}
  let get ← r.record
    ["url", "max_connections", "min_connections", "connection_timeout",
      "auto_migrate"] v
  let url ← field get "url" default.url r.text
  let maxConnections ←
    field get "max_connections" default.maxConnections (r.nat maxNat32)
  let minConnections ←
    field get "min_connections" default.minConnections (r.nat maxNat32)
  let connectionTimeout ←
    field get "connection_timeout" default.connectionTimeout (r.nat maxNat64)
  let autoMigrate ← field get "auto_migrate" default.autoMigrate r.flag
  return { url, maxConnections, minConnections, connectionTimeout, autoMigrate }

def logger (r : ValueReader β) (v : β) : Option LogSettings := do
  let default : LogSettings := {}
  let get ← r.record ["level", "format", "colored"] v
  let level ← field get "level" default.level r.text
  let format ← field get "format" default.format r.text
  let colored ← field get "colored" default.colored r.flag
  return { level, format, colored }

def core (r : ValueReader β) (v : β) : Option CoreSettings := do
  let default : CoreSettings := {}
  let get ← r.record ["request_timeout"] v
  let requestTimeout ←
    field get "request_timeout" default.requestTimeout (r.nat maxNat64)
  return { requestTimeout }

def settings (r : ValueReader β) (v : β) : Option Settings := do
  let get ← r.record ["application", "database", "logger", "core"] v
  let application ← field get "application" {} r.application
  let database ← field get "database" {} r.database
  let logger ← field get "logger" {} r.logger
  let core ← field get "core" {} r.core
  return { application, database, logger, core }

end ValueReader

end Registrar
