import MetaLint.Report.Structured

/-!
# The static analysis results interchange format

Every issue is a result, and every code of a tool is a rule. The rules are listed once each, in
ascending order.
-/

set_option autoImplicit false

namespace MetaLint.Sarif

open Json

def schemaAddress : String :=
  "https://raw.githubusercontent.com/oasis-tcs/sarif-spec/master/Schemata/sarif-schema-2.1.0.json"

inductive Level
  | error
  | warning
  | note
  deriving Repr, DecidableEq

def Level.name : Level → String
  | .error => "error"
  | .warning => "warning"
  | .note => "note"

def Level.ofSeverity : Severity → Level
  | .error | .fatal => .error
  | .warning => .warning
  | .refactor | .convention => .note

structure Result where
  ruleId : String
  level : Level
  message : String
  path : String
  line : UInt32
  column : Option UInt32
  deriving Repr, DecidableEq

def ruleId (i : Issue) : String := i.code.elim i.tool fun code => i.tool ++ "/" ++ code

def Result.ofIssue (ctx : ReportContext) (i : Issue) : Result :=
  { ruleId := Sarif.ruleId i, level := .ofSeverity i.severity, message := i.message,
    path := ctx.pathOf i,
    line := i.line, column := i.character }

structure Log where
  rules : List String
  results : List Result
  deriving Repr, DecidableEq

def Log.ofIssues (ctx : ReportContext) (view : List Issue) : Log :=
  let results := (Issue.sortBy Issue.defaultOrder view).map (Result.ofIssue ctx)
  { rules := Keyed.names (Keyed.ofList (results.map fun r => (r.ruleId, ()))), results }

def ruleDoc (id : String) : Doc := .object [("id", .text id), ("name", .text id)]

def regionDoc (r : Result) : Doc :=
  .object (("startLine", .nat r.line.toNat) ::
    (r.column.map fun c => ("startColumn", Doc.nat c.toNat)).toList)

def Result.toDoc (r : Result) : Doc :=
  .object [("ruleId", .text r.ruleId), ("level", .text r.level.name),
    ("message", .object [("text", .text r.message)]),
    ("locations", .list [.object [("physicalLocation", .object
      [("artifactLocation", .object [("uri", .text r.path)]), ("region", regionDoc r)])]])]

def rulesMember (rules : List String) : List (String × Doc) :=
  if rules.isEmpty then [] else [("rules", .list (rules.map ruleDoc))]

def driverDoc (rules : List String) : Doc :=
  .object ([("name", .text suiteName), ("version", .text suiteVersion)] ++ rulesMember rules)

def Log.toDoc (log : Log) : Doc :=
  .object [("$schema", .text schemaAddress), ("version", .text "2.1.0"),
    ("runs", .list [.object [("tool", .object [("driver", driverDoc log.rules)]),
      ("results", .list (log.results.map Result.toDoc))]])]

def report : Report :=
  .ofIssues "sarif" "SARIF 2.1.0 log for code scanning services" fun ctx view =>
    (Log.ofIssues ctx view).toDoc.pretty ++ "\n"

end MetaLint.Sarif
