import Registrar.Console.Fields
import Registrar.Console.Files
import Registrar.Settings.Json
import Registrar.Settings.Loader

/-!
# Loading settings in a request

A request brings files and environment variables.  It may name the environment,
and then the files lie in the directory itself or in one below it whose name is
given in bytes; otherwise the variables say where they are.
-/

namespace Registrar.Console

open Refusal

/-- What settings are loaded from in a request. -/
structure Machine where
  files : ConfigFiles
  env : Variables.Env
  loader : Except ConfigError ConfigLoader

def texts (v : Json) : List (String × String) :=
  match v with
  | .obj members => members.filterMap fun (name, v) => v.str?.map fun s => (name, s)
  | _ => []

def byteOf? (v : Json) : Option UInt8 :=
  (v.intWithin? 0 255).map fun i => UInt8.ofNat i.toNat

def rootPath : Path := ⟨rootName⟩

/-- The directory of the files: the one given in bytes, or the root. -/
def directory (v : Json) : Answering Path :=
  match v.present? "dir_bytes" with
  | none => .ok rootPath
  | some given =>
    match Json.list? byteOf? given with
    | some bytes => .ok ⟨rootName ++ Path.separator :: bytes⟩
    | none => .error (notA "dir_bytes" "bytes")

def loaderOf (v : Json) (dir : Path) (env : Variables.Env) :
    Except ConfigError ConfigLoader :=
  match string? v "environment" with
  | some word =>
    (Environment.read word).map fun environment =>
      { source := .layered dir, environment }
  | none => ConfigLoader.ofVariables env

def machine (v : Json) : Answering Machine := do
  let dir ← directory v
  let env := texts (object v "env")
  let files := (texts (object v "files")).map fun (name, content) =>
    (dir.join name, content)
  return {
    files := (Directory.ofFiles files).configFiles
    env
    loader := loaderOf v dir env }

def Machine.load (m : Machine) : Except ConfigError Settings := do
  (← m.loader).load m.files m.env

/-- The answer to loading: the settings, or the error and what the register makes
of it. -/
def Machine.loadAnswer (m : Machine) : Answering Json := do
  let loader ← ofConfig m.loader
  let environment := ("environment", text loader.environment.word)
  match loader.load m.files m.env with
  | .ok settings => return .obj [environment, ("settings", settings.toJson)]
  | .error e =>
    return .obj (e.members ++ [environment, ("app_error", text e.toAppError.message)])

def configLoad (v : Json) : Answering Json := do
  (← machine v).loadAnswer

end Registrar.Console
