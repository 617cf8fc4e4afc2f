import MetaLint.Json.Parser
import MetaLint.Issue.Basic
import MetaLint.Path
import MetaLint.Json.Value

/-!
# Configurations

What a run examines, how its issues are cleaned, which tools run and which reports are produced,
with the JSON records that say so.
-/

set_option autoImplicit false

namespace MetaLint

open Json

structure ToolConfig where
  enabled : Bool := true
  filters : List String := []
  disabled : List String := []
  options : Value := .emptyObject
  deriving Repr, BEq, Inhabited

namespace ToolConfig

def retainEnabled (c : ToolConfig) (issues : List Issue) : List Issue :=
  issues.filter fun i => !c.disabled.contains i.codeText

def option? (c : ToolConfig) (key : String) : Option Value := c.options.member? key

/-! ## As a JSON record -/

def takeUse (c : ToolConfig) (v : Value) : Shaped ToolConfig :=
  return { c with enabled := ← asBool v }

def takeFilters (c : ToolConfig) (v : Value) : Shaped ToolConfig :=
  return { c with filters := ← asTexts v }

def takeDisabled (c : ToolConfig) (v : Value) : Shaped ToolConfig :=
  return { c with disabled := ← asTexts v }

def takeOptions (c : ToolConfig) (v : Value) : Shaped ToolConfig :=
  return { c with options := ← v.takenOver (.invalidLength · "fewer elements in map") }

def take (c : ToolConfig) (name : String) (v : Value) : Shaped ToolConfig :=
  match name with
  | "use" => c.takeUse v
  | "filters" => c.takeFilters v
  | "disabled" => c.takeDisabled v
  | "options" => c.takeOptions v
  | _ => .ok c

/-- Every field that is missing has its default. -/
def ofValue : Value → Shaped ToolConfig
  | .object members => foldMembers take {} members
  | .list items =>
    foldItems items.length {} [takeUse, takeFilters, takeDisabled, takeOptions] items
  | v => wrongType v "struct ToolConfig"

def toValue (c : ToolConfig) : Value :=
  .object [("disabled", .ofTexts c.disabled), ("filters", .ofTexts c.filters),
    ("options", c.options), ("use", .bool c.enabled)]

def toDoc (c : ToolConfig) : Doc :=
  .object [("use", .ofValue (.bool c.enabled)), ("filters", .texts c.filters),
    ("disabled", .texts c.disabled), ("options", .ofValue c.options)]

end ToolConfig

open Json

structure ReportConfig where
  kind : String
  file : Option Path := none
  options : Members := []
  deriving Repr, BEq, Inhabited

namespace ReportConfig

def optionText? (c : ReportConfig) (key : String) : Option String :=
  (c.options.lookup key).bind Value.asText?

/-! ## As a JSON record -/

structure Fields where
  kind : Option String := none
  file : Option Path := none
  options : Members := []

def Fields.take (f : Fields) (name : String) (v : Value) : Shaped Fields :=
  match name with
  | "type" => return { f with kind := some (← asText v) }
  | "file" => return { f with file := (← optional asPathText v).map fun text : String => ⟨text⟩ }
  | _ => .ok { f with options := (name, v) :: f.options }

/-- Members that are no fields are options. -/
def ofValue : Value → Shaped ReportConfig
  | .object members => do
    let f ← foldMembers Fields.take {} members
    let kind ← required "type" f.kind
    let options ← membersTakenOver (.invalidLength · "1 element in map") f.options.reverse
    return { kind, file := f.file, options }
  | v => wrongType v "struct ReportConfig"

def fileMember (c : ReportConfig) : Members :=
  (c.file.map fun p => ("file", Value.text p.text)).toList

def toValue (c : ReportConfig) : Value :=
  Value.ofMembers (("type", .text c.kind) :: c.fileMember ++ c.options)

def toDoc (c : ReportConfig) : Doc :=
  .object (Doc.ofMembers (("type", .text c.kind) :: c.fileMember ++ c.options))

end ReportConfig

/-- How many tools run at the same time on a machine with so many processors: all but one of them
work, but no more than four. -/
def defaultWorkers (processors : Nat) : Nat := max 1 (min (processors - 1) 4)

structure Config where
  exclude : List String := []
  mergeIssues : Bool := true
  workers : Nat := defaultWorkers 1
  disabled : List String := []
  noqa : Bool := true
  noqaExtensions : List String := ["py", "pyi"]
  respectGitignore : Bool := false
  reports : List ReportConfig := [{ kind := "console" }]
  tools : Keyed ToolConfig := []
  deriving Repr, BEq, Inhabited

namespace Config

/-- The default configuration with the default block of every known tool. A machine that cannot tell
how many processors it has counts as one with a single processor. -/
def defaults (blocks : Keyed ToolConfig) (processors : Nat := 1) : Config :=
  { workers := defaultWorkers processors, tools := blocks }

def tool? (c : Config) (name : String) : Option ToolConfig := c.tools.lookup name

def enabledNames (c : Config) : List String := (c.tools.filter fun t => t.2.enabled).map Prod.fst

end Config

end MetaLint

namespace MetaLint.Config

open Json

def asReports : Value → Shaped (List ReportConfig) := asList ReportConfig.ofValue

def takeTools (done : Keyed ToolConfig) (name : String) (v : Value) :
    Shaped (Keyed ToolConfig) :=
  return Keyed.set name (← ToolConfig.ofValue v) done

def asTools : Value → Shaped (Keyed ToolConfig)
  | .object members => foldMembers takeTools [] members
  | v => wrongType v "a map"

def take (c : Config) (name : String) (v : Value) : Shaped Config :=
  match name with
  | "exclude" => return { c with exclude := ← asTexts v }
  | "merge-issues" => return { c with mergeIssues := ← asBool v }
  | "workers" => return { c with workers := ← asSize v }
  | "disabled" => return { c with disabled := ← asTexts v }
  | "noqa" => return { c with noqa := ← asBool v }
  | "noqa-extensions" => return { c with noqaExtensions := ← asTexts v }
  | "respect-gitignore" => return { c with respectGitignore := ← asBool v }
  | "reports" => return { c with reports := ← asReports v }
  | "tools" => return { c with tools := ← asTools v }
  | _ => .ok c

def ofValue (v : Value) (processors : Nat := 1) : Shaped Config :=
  match v with
  | .object members => foldMembers take (defaults [] processors) members
  | v => wrongType v "struct Config"

def toolsValue (tools : Keyed ToolConfig) : Value :=
  .object (tools.mapValues fun _ t => t.toValue)

def toValue (c : Config) : Value :=
  .object [("disabled", .ofTexts c.disabled), ("exclude", .ofTexts c.exclude),
    ("merge-issues", .bool c.mergeIssues), ("noqa", .bool c.noqa),
    ("noqa-extensions", .ofTexts c.noqaExtensions),
    ("reports", .list (c.reports.map ReportConfig.toValue)),
    ("respect-gitignore", .bool c.respectGitignore), ("tools", toolsValue c.tools),
    ("workers", .ofNat c.workers)]

def toDoc (c : Config) : Doc :=
  .object [("exclude", .texts c.exclude), ("merge-issues", .ofValue (.bool c.mergeIssues)),
    ("workers", .nat c.workers), ("disabled", .texts c.disabled),
    ("noqa", .ofValue (.bool c.noqa)), ("noqa-extensions", .texts c.noqaExtensions),
    ("respect-gitignore", .ofValue (.bool c.respectGitignore)),
    ("reports", .list (c.reports.map ReportConfig.toDoc)),
    ("tools", .object (c.tools.mapValues fun _ t => t.toDoc))]

def pretty (c : Config) : String := c.toDoc.pretty

end MetaLint.Config
