import MetaLint.CommandLine.Invocation
import MetaLint.Report.Delivery
import MetaLint.Run

/-!
# The check command

A check runs the enabled tools on a project and produces the reports. Its options win over the
configuration, which is the one they name, the project's, the user's, or the default one.
-/

set_option autoImplicit false

namespace MetaLint

inductive CommandError
  | notADirectory (path : Path)
  | unusableTool (name : String) (known : List String)
  | unknownTool (name : String)
  | failed (e : Error)
  deriving Repr

def CommandError.message : CommandError → String
  | .notADirectory path => "Project path is not a directory: " ++ path.text
  | .unusableTool name known =>
    "Unknown tool: " ++ name ++ " (choose from " ++ ", ".intercalate known ++ ")"
  | .unknownTool name => "Unknown tool: " ++ name
  | .failed e => e.message

structure Workplace where
  disk : Disk
  userDirectory : Path
  processors : Nat := 1
  tools : ToolRegistry := .builtin
  reports : ReportRegistry := .builtin
  color : Bool := false
  started : String := ""
  completed : String := ""
  refusals : Refusals := {}
  cancelled : Bool := false

structure CommandEnd where
  result : Except CommandError Bool
  out : String := ""
  disk : Disk

namespace CheckArgs

/-- The configuration with the options that were given. Named tools are enabled, and no others. -/
def override (a : CheckArgs) (c : Config) : Config :=
  { c with
    exclude := if a.excludes.isEmpty then c.exclude else a.excludes
    mergeIssues := c.mergeIssues && !a.disableMerge
    noqa := c.noqa && !a.disableNoqa
    workers := a.workers.getD c.workers
    tools :=
      if a.tools.isEmpty then c.tools
      else c.tools.mapValues fun name t => { t with enabled := a.tools.contains name }
    reports := if a.reports.isEmpty then c.reports else a.reports }

def checkNames (tools : ToolRegistry) : List String → Except CommandError Unit
  | [] => .ok ()
  | name :: rest =>
    if (tools.get? name).elim false Tool.usable then checkNames tools rest
    else .error (.unusableTool name tools.names)

end CheckArgs

namespace Workplace

def projectOf (w : Workplace) (a : CheckArgs) : Except CommandError Path :=
  if w.disk.isDir a.path then
    match w.disk.canonical a.path with
    | .ok path => .ok path
    | .error fault => .error (.failed (.io fault))
  else .error (.notADirectory a.path)

def baseConfig (w : Workplace) (a : CheckArgs) (project : Path) : Except ConfigError Config :=
  match a.config with
  | some file => Config.ofFile w.tools.blocks w.disk file w.processors
  | none => Config.forProject w.tools.blocks w.disk w.userDirectory project w.processors

def configOf (w : Workplace) (a : CheckArgs) (project : Path) : Except ConfigError Config := do
  let c := a.override (← w.baseConfig a project)
  c.check
  return c

def requestOf (w : Workplace) (a : CheckArgs) : Except CommandError RunRequest := do
  let project ← w.projectOf a
  CheckArgs.checkNames w.tools a.tools
  match w.configOf a project with
  | .error e => .error (.failed (.config e))
  | .ok config =>
    return { registry := w.tools, config, disk := w.disk, project, cancelled := w.cancelled,
             refusals := w.refusals }

def reportOn (w : Workplace) (r : RunRequest) (c : Collector) : CommandEnd :=
  let request : DeliveryRequest :=
    { registry := w.reports, config := r.config, project := r.project, color := w.color,
      started := w.started, completed := w.completed }
  let done := Delivery.deliverAll request { disk := w.disk, collector := c }
  let result : Except CommandError Bool := match done.outcome with
    | .error e => .error (.failed e)
    | .ok () =>
      let (count, c) := done.collector.count done.disk
      .ok (0 < count || c.failed)
  { result, out := done.out, disk := done.disk }

/-- A check whose workers make these moves first. -/
def checkWith (w : Workplace) (a : CheckArgs) (moves : List Bench.Move) : CommandEnd :=
  match w.requestOf a with
  | .error e => { result := .error e, disk := w.disk }
  | .ok r =>
    match (r.perform moves).result with
    | .error e => { result := .error (.failed e), disk := w.disk }
    | .ok c => w.reportOn r c

def check (w : Workplace) (a : CheckArgs) : CommandEnd := w.checkWith a []

end Workplace

end MetaLint
