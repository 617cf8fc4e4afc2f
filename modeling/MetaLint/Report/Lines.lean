import MetaLint.Report.Basic

/-!
# Reports that other tools read

A flat list by place, a list with a header for each module, and a list of messages after a summary
of the run.
-/

set_option autoImplicit false

namespace MetaLint

namespace FlatReport

def line (ctx : ReportContext) (i : Issue) : String :=
  ctx.pathOf i ++ ":" ++ numberString i.line ++ ":" ++ numberString i.column ++ " " ++ i.codeText ++
    "@" ++ i.tool ++ " " ++ i.message

def text (ctx : ReportContext) (view : List Issue) : String :=
  linesText ((Issue.sortBy Issue.placeOrder view).map (line ctx))

def report : Report := .ofIssues "pycodestyle" "One line per issue, like pycodestyle" text

end FlatReport

namespace ModuleReport

def moduleName (path : String) : String :=
  match Text.stripTail ".py".toList path.toList with
  | some (c :: rest) => String.ofList ((c :: rest).map fun a => if a = '/' then '.' else a)
  | _ => path

/-- Columns count from 0 here. -/
def shownColumn (i : Issue) : UInt32 := UInt32.ofNat ((i.character.getD 1).toNat - 1)

def line (i : Issue) : String :=
  String.ofList [i.severity.letter] ++ ":" ++ Text.padLeft 3 (numberString i.line) ++ "," ++
    Text.padLeft 2 (numberString (shownColumn i)) ++ ": " ++ i.message ++ " (" ++ i.codeText ++
    "@" ++ i.tool ++ ")"

def groupLines (ctx : ReportContext) (group : Path × List Issue) : List String :=
  ("************* Module " ++ moduleName (group.1.relativeTo ctx.project)) :: group.2.map line

def text (ctx : ReportContext) (view : List Issue) : String :=
  linesText ((issuesByFile view).flatMap (groupLines ctx))

def report : Report := .ofIssues "pylint" "Issues grouped by module, like pylint" text

end ModuleReport

end MetaLint

namespace MetaLint.SummaryReport

open Json

def messageDoc (ctx : ReportContext) (i : Issue) : Doc :=
  .object [("source", .text i.tool), ("code", i.code.elim .null .text),
    ("location", .object [("path", .text (ctx.pathOf i)), ("module", .null), ("function", .null),
      ("line", .nat i.line.toNat), ("character", .nat i.column.toNat)]),
    ("message", .text i.message)]

def summaryDoc (ctx : ReportContext) (count : Nat) : Doc :=
  .object [("started", .text ctx.started), ("libraries", .list []),
    ("strictness", .text "from profile"), ("profiles", .text suiteName),
    ("tools", .texts ctx.tools), ("message_count", .nat count), ("completed", .text ctx.completed),
    ("time_taken", .text "0"), ("formatter", .text "json")]

def doc (ctx : ReportContext) (view : List Issue) : Doc :=
  .object [("summary", summaryDoc ctx view.length),
    ("messages", .list ((Issue.sortBy Issue.placeOrder view).map (messageDoc ctx)))]

def report : Report :=
  .ofIssues "prospector-json" "JSON in the format produced by prospector" fun ctx view =>
    (doc ctx view).pretty ++ "\n"

end MetaLint.SummaryReport
