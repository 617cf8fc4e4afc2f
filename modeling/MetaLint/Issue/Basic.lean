import MetaLint.Path

/-!
# Issues

A finding of one tool: where it is, what the tool calls it, and how severe it is. The suite reports
its own findings under its own name; those about a whole tool run are called tool reports.
-/

set_option autoImplicit false

namespace MetaLint

inductive Severity
  | error
  | warning
  | refactor
  | convention
  | fatal
  deriving Repr, DecidableEq, Inhabited

namespace Severity

def letter : Severity → Char
  | .error => 'E'
  | .warning => 'W'
  | .refactor => 'R'
  | .convention => 'C'
  | .fatal => 'F'

def name : Severity → String
  | .error => "error"
  | .warning => "warning"
  | .refactor => "refactor"
  | .convention => "convention"
  | .fatal => "fatal"

def all : List Severity := [.error, .warning, .refactor, .convention, .fatal]

def ofName? (text : String) : Option Severity := all.find? fun s => s.name == text

theorem ofName?_name (s : Severity) : ofName? s.name = some s := by cases s <;> decide

end Severity

structure Issue where
  tool : String
  code : Option String := none
  message : String
  filename : Path
  line : UInt32 := 1
  character : Option UInt32 := none
  severity : Severity := .error
  deriving Repr, DecidableEq, Inhabited

def suiteName : String := "tidyup"

def toolReportCode : String := "tool"

namespace Issue

/-- A finding on the first line of `filename`; an empty code is no code. -/
def create (tool code message : String) (filename : Path) : Issue :=
  { tool, code := if code = "" then none else some code, message, filename }

def withLine (i : Issue) (line : Option UInt32) : Issue := { i with line := line.getD 1 }

/-- Column 0 stands for an unknown column. -/
def withCharacter (i : Issue) (character : Option UInt32) : Issue :=
  { i with character := character.filter (0 < ·) }

def withSeverity (i : Issue) (severity : Severity) : Issue := { i with severity }

def codeText (i : Issue) : String := i.code.getD ""

def isSelfReported (i : Issue) : Bool := i.tool == suiteName

def isToolReport (i : Issue) : Bool := i.isSelfReported && i.code == some toolReportCode

def unexpected (error : String) (filename : Path) : Issue :=
  (create suiteName "unexpected" ("Unexpected error (" ++ error ++ ")") filename).withSeverity
    .fatal

def access (error : String) (filename : Path) : Issue :=
  (create suiteName "access" ("Cannot access file (" ++ error ++ ")") filename).withSeverity .fatal

def unparsable (error : String) (filename : Path) (line character : Option UInt32) : Issue :=
  (((create suiteName "parse" ("Unable to parse file (" ++ error ++ ")") filename).withLine
    line).withCharacter character).withSeverity .fatal

/-- A report about a whole tool run, with `details` on the lines after the message. -/
def toolReport (message : String) (project : Path) (details : Option String) (failure : Bool) :
    Issue :=
  let text := match details with
    | none => message
    | some d => if d = "" then message else message ++ ":\n" ++ d
  (create suiteName toolReportCode text project).withSeverity (if failure then .fatal else .error)

def display (i : Issue) : String :=
  i.filename.text ++ ":" ++ toString i.line.toNat ++
    (i.character.elim "" fun c => ":" ++ toString c.toNat) ++ " " ++ i.codeText ++ "@" ++ i.tool ++
    " " ++ i.message

@[simp] theorem codeText_create (tool code message : String) (filename : Path) :
    (create tool code message filename).codeText = code := by
  by_cases h : code = "" <;> simp [create, codeText, h]

theorem isToolReport_toolReport (message : String) (project : Path) (details : Option String)
    (failure : Bool) : (toolReport message project details failure).isToolReport = true := by
  rfl

end Issue

end MetaLint
