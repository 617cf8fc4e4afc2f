import MetaLint.Report.Basic
import MetaLint.Csv
import MetaLint.Toml
import MetaLint.Yaml

/-!
# Structured reports

One log, the issues of each file by its shown path, in four formats.
-/

set_option autoImplicit false

namespace MetaLint

def suiteVersion : String := "0.1.0"

structure LogEntry where
  line : UInt32
  character : UInt32
  code : String
  tool : String
  message : String
  deriving Repr, DecidableEq

abbrev IssueLog := Keyed (List LogEntry)

namespace LogEntry

def ofIssue (i : Issue) : LogEntry :=
  { line := i.line, character := i.column, code := i.codeText, tool := i.tool,
    message := i.message }

def toDoc (e : LogEntry) : Json.Doc :=
  .object [("line", .nat e.line.toNat), ("character", .nat e.character.toNat),
    ("code", .text e.code),
    ("tool", .text e.tool), ("message", .text e.message)]

def toToml (e : LogEntry) : Toml.Entries :=
  [("line", .number e.line.toNat), ("character", .number e.character.toNat), ("code", .text e.code),
    ("tool", .text e.tool), ("message", .text e.message)]

def toYaml (e : LogEntry) : Yaml.Node :=
  .map [("line", .number e.line.toNat), ("character", .number e.character.toNat),
    ("code", .text e.code), ("tool", .text e.tool), ("message", .text e.message)]

def toRecord (path : String) (e : LogEntry) : Csv.Record :=
  [path, numberString e.line, numberString e.character, e.tool, e.code, e.message].map String.toList

end LogEntry

namespace IssueLog

/-- The log of cleaned issues. Files that are shown alike have one place, and the last one fills
it. -/
def ofIssues (ctx : ReportContext) (view : List Issue) : IssueLog :=
  Keyed.ofList ((issuesByFile view).map fun g =>
    (g.1.relativeTo ctx.project, g.2.map LogEntry.ofIssue))

def toDoc (log : IssueLog) : Json.Doc :=
  .object [(suiteName, .text suiteVersion),
    ("issues", .object (log.mapValues fun _ es => .list (es.map LogEntry.toDoc)))]

def toToml (log : IssueLog) : Toml.Document :=
  { entries := [(suiteName, .text suiteVersion)]
    sections :=
      if log.isEmpty then [{ path := ["issues"], isItem := false, entries := [] }]
      else log.flatMap fun (path, es) =>
        es.map fun e => { path := ["issues", path], isItem := true, entries := e.toToml } }

def toYaml (log : IssueLog) : Yaml.Node :=
  .map [(suiteName, .text suiteVersion),
    ("issues", .map (log.mapValues fun _ es => .list (es.map LogEntry.toYaml)))]

def csvHeader : Csv.Record :=
  ["filename", "line", "character", "tool", "code", "message"].map String.toList

def toRecords (log : IssueLog) : List Csv.Record :=
  csvHeader :: log.flatMap fun (path, es) => es.map (LogEntry.toRecord path)

def jsonReport : Report :=
  .ofIssues "json" "Issues grouped by file as JSON" fun ctx view =>
    (ofIssues ctx view).toDoc.pretty ++ "\n"

def tomlReport : Report :=
  .ofIssues "toml" "Issues grouped by file as TOML" fun ctx view =>
    String.ofList (ofIssues ctx view).toToml.text

def yamlReport : Report :=
  .ofIssues "yaml" "Issues grouped by file as YAML" fun ctx view =>
    (ofIssues ctx view).toYaml.pretty

def csvReport : Report :=
  .ofIssues "csv" "One CSV record per issue" fun ctx view =>
    String.ofList (Csv.text (ofIssues ctx view).toRecords)

end IssueLog

end MetaLint
