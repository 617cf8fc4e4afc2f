import MetaLint.Config.Basic
import MetaLint.Json.Schema
import MetaLint.Jsonc.Parser
import MetaLint.Disk

/-!
# Configuration documents

A document mentions what it changes. It is checked against a schema, merged over the defaults, and
read as a configuration. A project's own document wins over the user's.
-/

set_option autoImplicit false

namespace MetaLint

open Json

inductive ConfigError
  | noWorkers
  | unreadable (path : Path) (fault : Disk.Fault)
  | malformed (e : Jsonc.ParseError)
  | violates (v : Violation)
  | misshapen (e : ShapeError)
  | badOptions (tool : String) (e : ShapeError)
  | note (text : String)
  deriving Repr

def ConfigError.message : ConfigError → String
  | .noWorkers => "workers must be at least 1"
  | .unreadable path fault => "Failed to read config " ++ path.text ++ ": " ++ fault.message
  | .malformed e => "Failed to parse config: " ++ e.message
  | .violates v => "Config validation failed: " ++ v.message
  | .misshapen e => "Invalid config: " ++ e.message
  | .badOptions tool e => "Invalid options for " ++ tool ++ ": " ++ e.message
  | .note text => text

namespace Config

def texts : Schema := .list .text

def reportSchema : Schema := .record ["type"] [("file", .text), ("type", .text)] .any

def toolSchema : Schema :=
  .record [] [("disabled", texts), ("filters", texts), ("options", .object), ("use", .bool)]
    .forbidden

def schema : Schema :=
  .record []
    [("$schema", .text), ("disabled", texts), ("exclude", texts), ("merge-issues", .bool),
     ("noqa", .bool), ("noqa-extensions", texts), ("reports", .list reportSchema),
     ("respect-gitignore", .bool), ("tools", .record [] [] (.each toolSchema)),
     ("workers", .count 1)]
    .forbidden

def check (c : Config) : Except ConfigError Unit :=
  if c.workers = 0 then .error .noWorkers else .ok ()

/-- The document's value; an empty document says nothing. -/
def documentValue (text : String) : Except ConfigError Value :=
  match Jsonc.parse text.toList with
  | .ok v => .ok (v.getD .emptyObject)
  | .error e => .error (.malformed e)

def ofOverrides (blocks : Keyed ToolConfig) (overrides : Value) (processors : Nat := 1) :
    Except ConfigError Config :=
  match schema.check overrides with
  | .error v => .error (.violates v)
  | .ok () =>
    match ofValue ((defaults blocks processors).toValue.mergeOver overrides) processors with
    | .error e => .error (.misshapen e)
    | .ok c => c.check.map fun _ => c

/-- The configuration that a document describes, over the default blocks of the known tools. -/
def ofDocument (blocks : Keyed ToolConfig) (text : String) (processors : Nat := 1) :
    Except ConfigError Config := do
  ofOverrides blocks (← documentValue text) processors

def ofFile (blocks : Keyed ToolConfig) (d : Disk) (path : Path) (processors : Nat := 1) :
    Except ConfigError Config :=
  match d.readText path with
  | .ok text => ofDocument blocks text processors
  | .error fault => .error (.unreadable path fault)

def documentNames : List OsText := [".tidyup.jsonc", ".tidyup.json"]

def userDocument (userDirectory : Path) : Path :=
  (userDirectory.join "tidyup").join "config.jsonc"

def discover (d : Disk) (userDirectory project : Path) : Option Path :=
  (documentNames.map project.join ++ [userDocument userDirectory]).find? d.isFile

def forProject (blocks : Keyed ToolConfig) (d : Disk) (userDirectory project : Path)
    (processors : Nat := 1) : Except ConfigError Config :=
  match discover d userDirectory project with
  | some path => ofFile blocks d path processors
  | none => .ok (defaults blocks processors)

end Config

end MetaLint
