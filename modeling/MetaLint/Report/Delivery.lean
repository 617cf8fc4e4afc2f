import MetaLint.Report.Console
import MetaLint.Report.Lines
import MetaLint.Report.Template
import MetaLint.Report.Sarif

/-!
# Producing the reports of a configuration

Each report is written as a whole, to its file or to standard output, or not at all. A report that
fails does not keep the next ones from being written; its error is the outcome if it is the first.
Reports of an unknown kind are passed over.
-/

set_option autoImplicit false

namespace MetaLint

def emptyReport : Report :=
  { name := "null", description := "Produces no output", body := fun _ => .fixed { pieces := [] } }

abbrev ReportRegistry := Keyed Report

namespace ReportRegistry

def register (r : ReportRegistry) (report : Report) : ReportRegistry :=
  Keyed.set report.name report r

def ofList (reports : List Report) : ReportRegistry := reports.foldl register []

def builtin : ReportRegistry :=
  ofList [Console.report, FlatReport.report, ModuleReport.report, Template.report,
    IssueLog.jsonReport, IssueLog.tomlReport, IssueLog.yamlReport, IssueLog.csvReport,
    SummaryReport.report, Sarif.report, emptyReport]

def get? (r : ReportRegistry) (name : String) : Option Report := List.lookup name r

end ReportRegistry

structure Delivery where
  disk : Disk
  out : String := ""
  finished : List ReportConfig := []
  firstError : Option Error := none
  collector : Collector

structure DeliveryRequest where
  registry : ReportRegistry
  config : Config
  project : Path
  color : Bool := false
  started : String := ""
  completed : String := ""

namespace DeliveryRequest

/-- Colours are for standard output alone. -/
def context (r : DeliveryRequest) (rc : ReportConfig) : ReportContext :=
  { project := r.project, config := rc, tools := r.config.enabledNames,
    color := r.color && rc.file.isNone, started := r.started, completed := r.completed }

end DeliveryRequest

namespace Delivery

def fail (s : Delivery) (e : Error) : Delivery := { s with firstError := s.firstError.or (some e) }

def finish (s : Delivery) (rc : ReportConfig) : Delivery :=
  { s with finished := s.finished ++ [rc] }

def put (s : Delivery) (rc : ReportConfig) (text : String) : Delivery :=
  match rc.file with
  | none => { s with out := s.out ++ text }.finish rc
  | some path =>
    match s.disk.write path (Text.encode text) with
    | .ok disk => { s with disk }.finish rc
    | .error fault => s.fail (.report (.unwritable path fault))

def deliver (r : DeliveryRequest) (s : Delivery) (rc : ReportConfig) : Delivery :=
  match r.registry.get? rc.kind with
  | none => s
  | some report =>
    let (result, collector) := report.render s.collector s.disk (r.context rc)
    let s := { s with collector }
    match result with
    | .ok text => s.put rc text
    | .error e => s.fail e

def deliverAll (r : DeliveryRequest) (s : Delivery) : Delivery :=
  r.config.reports.foldl (deliver r) s

def outcome (s : Delivery) : Except Error Unit :=
  match s.firstError with
  | some e => .error e
  | none => .ok ()

end Delivery

end MetaLint
