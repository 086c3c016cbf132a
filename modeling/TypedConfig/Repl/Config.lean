import TypedConfig.Project.InMemory
import TypedConfig.Session.Basic
import TypedConfig.Toml.Reader

namespace TypedConfig.Repl

/-- What is given in place of a session's defaults. -/
structure Overrides where
  wellKnown : Option (List String) := none
  interface : Option String := none
  source : Option String := none
  code : Option String := none
  deriving DecidableEq, Repr

structure Config where
  project : String := "repl"
  /-- The signature that is selected at the start. -/
  signature : Option String := none
  /-- Types of the project besides those of every installation. -/
  extraTypes : List String := []
  /-- Whether the standard converters are there to be found. -/
  builtinProvider : Bool := true
  session : Overrides := {}
  deriving DecidableEq, Repr

namespace Overrides

def set (overrides : Overrides) (key : String) (value : Toml.Value) : Option Overrides :=
  match key with
  | "well_known_providers" => do return { overrides with wellKnown := some (← value.texts?) }
  | "provider_interface" => do return { overrides with interface := some (← value.text?) }
  | "diagnostic_source" => do return { overrides with source := some (← value.text?) }
  | "diagnostic_code" => do return { overrides with code := some (← value.text?) }
  | _ => none

def keys : List String :=
  ["well_known_providers", "provider_interface", "diagnostic_source", "diagnostic_code"]

def ofEntries? (entries : Toml.Table) : Option Overrides :=
  entries.foldlM (fun overrides (key, value) => overrides.set key value) {}

/-- Reads a table, or an array of the values in the order of their keys. -/
def ofValue? : Toml.Value → Option Overrides
  | .table _ entries => ofEntries? entries
  | .array items => ofEntries? (keys.zip items)
  | .tables items => ofEntries? (keys.zip (items.map (Toml.Value.table .header)))
  | _ => none

end Overrides

namespace Config

def set (config : Config) (key : String) (value : Toml.Value) : Option Config :=
  match key with
  | "project" => do return { config with project := ← value.text? }
  | "signature" => do return { config with signature := some (← value.text?) }
  | "extra_types" => do return { config with extraTypes := ← value.texts? }
  | "builtin_provider" => do return { config with builtinProvider := ← value.boolean? }
  | "session" => do return { config with session := ← Overrides.ofValue? value }
  | _ => none

def ofToml? (document : String) : Option Config := do
  (← Toml.parse document).foldlM (fun config (key, value) => config.set key value) {}

/-- Why there is no configuration. -/
inductive LoadError where
  | unreadable (path : String)
  | malformed (path : String)
  deriving DecidableEq, Repr

def LoadError.message : LoadError → String
  | .unreadable path => "reading " ++ path
  | .malformed path => "parsing " ++ path

/-- The configuration in a file, given its content if it can be read. -/
def load (path : String) (content : Option String) : Except LoadError Config :=
  match content with
  | none => .error (.unreadable path)
  | some document => match ofToml? document with
    | none => .error (.malformed path)
    | some config => .ok config

def settings (config : Config) : Session.Settings :=
  let fallback := Session.Settings.named config.project
  { name := config.project
    wellKnown := config.session.wellKnown.getD fallback.wellKnown
    interface := config.session.interface.getD fallback.interface
    source := config.session.source.getD fallback.source
    code := config.session.code.getD fallback.code }

/-- The project in which signatures are resolved. -/
def inMemory (config : Config) : InMemory :=
  let project := (InMemory.base config.project).addTypes config.extraTypes
  if config.builtinProvider then project.addStandard else project

end Config

end TypedConfig.Repl
