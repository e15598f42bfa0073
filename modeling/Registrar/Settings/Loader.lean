import Registrar.Settings.Coercion
import Registrar.Settings.Files
import Registrar.Settings.Variables
import Registrar.Toml.Parser

/-!
# Loading settings

Settings are merged from layers, each of which wins over those before it: the
file of defaults, the file of the environment, the local file, and the
environment variables.  Only the file of defaults has to be there.  A single file
may take the place of the three.
-/

namespace Registrar

/-- Where the files of a configuration are. -/
inductive ConfigSource where
  | layered (dir : Path)
  | singleFile (file : Path)
  deriving DecidableEq

structure ConfigLoader where
  source : ConfigSource
  environment : Environment
  deriving DecidableEq

namespace ConfigLoader

open Variables

def defaultDirectory : Path := .ofText "config"

/-- The loader that the variables ask for; a variable that is set but empty asks
too. -/
def ofVariables (env : Env) : Except ConfigError ConfigLoader :=
  let environment := Environment.ofVariable (env.lookup ConfigError.environmentVariable)
  let dir := (env.lookup ConfigError.directoryVariable).map Path.ofText
  let file := (env.lookup ConfigError.fileVariable).map Path.ofText
  match dir, file with
  | some _, some _ => .error .conflictingSources
  | none, some file => .ok { source := .singleFile file, environment }
  | dir, none => .ok { source := .layered (dir.getD defaultDirectory), environment }

/-- A file of a configuration, and whether it has to be there. -/
structure Layer where
  path : Path
  required : Bool
  deriving DecidableEq

def layers (l : ConfigLoader) : List Layer :=
  match l.source with
  | .singleFile file => [⟨file, true⟩]
  | .layered dir =>
    [⟨dir.join "default.toml", true⟩,
      ⟨dir.join (l.environment.word ++ ".toml"), false⟩,
      ⟨dir.join "local.toml", false⟩]

/-- Before a file is read, it has to be there if it is required, and its path has
to be text. -/
def Layer.check (files : ConfigFiles) (layer : Layer) : Except ConfigError Unit :=
  if layer.required && !files.present layer.path then
    .error (.fileNotFound layer.path.display)
  else if layer.path.text?.isNone then .error (.nonUtf8Path layer.path.display)
  else .ok ()

/-- The text of a file, under its name or its name with the ending. -/
def Layer.text? (files : ConfigFiles) (layer : Layer) : Option String :=
  match files.content? layer.path with
  | some text => some text
  | none => files.content? (layer.path.withEnding ".toml")

/-- The entries of a file; a file that may be missing and is has none. -/
def Layer.entries (files : ConfigFiles) (layer : Layer) :
    Except ConfigError ConfigValue.Entries :=
  match layer.text? files with
  | some text =>
    match Toml.parse? (String.ofList (Toml.withoutMark text.toList)) with
    | some entries => .ok entries
    | none => .error .build
  | none => if layer.required then .error .build else .ok []

/-- All sources of a configuration, the weakest first. -/
def sources (l : ConfigLoader) (files : ConfigFiles) (env : Env) :
    Except ConfigError (List ConfigValue.Entries) := do
  l.layers.forM (Layer.check files)
  let read ← l.layers.mapM (Layer.entries files)
  return read ++ [Variables.source env]

/-- Sources laid over each other, the weakest first. -/
def merge (sources : List ConfigValue.Entries) : ConfigValue.Entries :=
  sources.foldl (fun es source => ConfigValue.addSource source es) []

/-- The settings that a merged configuration holds, not yet checked. -/
def settingsOf (entries : ConfigValue.Entries) : Except ConfigError Settings :=
  match ConfigValue.reader.settings (.table entries) with
  | some settings => .ok settings
  | none => .error .deserialize

/-- Settings before they are checked. -/
def unchecked (l : ConfigLoader) (files : ConfigFiles) (env : Env) :
    Except ConfigError Settings := do
  settingsOf (merge (← l.sources files env))

def load (l : ConfigLoader) (files : ConfigFiles) (env : Env) :
    Except ConfigError Settings := do
  let settings ← l.unchecked files env
  settings.check
  return settings

end ConfigLoader

end Registrar
