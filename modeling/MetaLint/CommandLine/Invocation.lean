import MetaLint.CommandLine.Grammar
import MetaLint.Listing
import MetaLint.Report.Delivery
import MetaLint.Text.Basic

/-!
# Invocations

What a command line asks for: one of four commands with its options, or a page of help.
-/

set_option autoImplicit false

namespace MetaLint

structure CheckArgs where
  path : Path := ⟨"."⟩
  excludes : List String := []
  tools : List String := []
  reports : List ReportConfig := []
  config : Option Path := none
  workers : Option Nat := none
  disableMerge : Bool := false
  disableProgress : Bool := false
  disableNoqa : Bool := false
  deriving Repr, BEq, Inhabited

inductive Command
  | check (args : CheckArgs)
  | listCodes (tools : List String) (format : ListFormat)
  | defaultConfig
  | extensions (format : ListFormat)
  deriving Repr, BEq, Inhabited

structure Invocation where
  verbose : Bool
  command : Command
  deriving Repr, BEq, Inhabited

namespace CommandLine

/-- The kind of a report and the file it goes to, with a colon between; without a file the report
goes to standard output. -/
def reportParts (value : String) : String × Option Path :=
  match Text.splitOnce ':' value.toList with
  | some (kind, []) => (String.ofList kind, none)
  | some (kind, file) => (String.ofList kind, some ⟨String.ofList file⟩)
  | none => (value, none)

def report? (value : String) : Option ReportConfig :=
  let (kind, file) := reportParts value
  (ReportRegistry.builtin.get? kind).map fun _ => { kind, file }

def reportRefusal (value : String) : String :=
  "invalid choice: " ++ value ++ ". (choose from " ++
    ",".intercalate (Keyed.names ReportRegistry.builtin) ++ ")"

/-- A number of workers: decimal digits, perhaps after a plus sign, from 1 to 65535. -/
def workers? (value : String) : Option Nat :=
  let digits := match value.toList with
    | '+' :: rest => rest
    | cs => cs
  if digits.isEmpty || !digits.all Text.isDigit then none
  else
    let n := digits.foldl (fun n c => n * 10 + Text.digitValue c) 0
    if 1 ≤ n && n < 65536 then some n else none

def readPath (value : String) : Except Refusal Path :=
  if value = "" then .error .missingValue else .ok ⟨value⟩

def readFormat (value : String) : Except Refusal ListFormat :=
  match ListFormat.ofName? value with
  | some f => .ok f
  | none => .error (.unknownChoice value)

def readReport (value : String) : Except Refusal ReportConfig :=
  match report? value with
  | some r => .ok r
  | none => .error (.badValue value)

def readWorkers (value : String) : Except Refusal Nat :=
  match workers? value with
  | some n => .ok n
  | none => .error (.badValue value)

def once {α : Type} (old : Option α) (read : String → Except Refusal α) (value : String) :
    Except Refusal (Option α) :=
  match old with
  | some _ => .error .repeated
  | none => (read value).map some

def raise (old : Bool) : Except Refusal Bool := if old then .error .repeated else .ok true

structure Draft (α : Type) where
  verbose : Bool := false
  options : α

variable {α : Type}

def verboseOption : OptionSpec (Draft α) :=
  { long := "verbose", short := some 'v', meaning := "Enable verbose output"
    action := .flag fun d => return { d with verbose := ← raise d.verbose } }

def helpOption : OptionSpec (Draft α) :=
  { long := "help", short := some 'h', meaning := "Print help", action := .help }

def versionOption : OptionSpec (Draft α) :=
  { long := "version", short := some 'V', meaning := "Print version", action := .version }

def valueOption (long : String) (short : Option Char) (name meaning : String) (take : Take α) :
    OptionSpec (Draft α) :=
  { long, short, meaning
    action := .value name fun value d => return { d with options := ← take value d.options } }

def flagOption (long meaning : String) (mark : α → Except Refusal α) : OptionSpec (Draft α) :=
  { long, meaning, action := .flag fun d => return { d with options := ← mark d.options } }

def checkOptions : List (OptionSpec (Draft CheckArgs)) :=
  [valueOption "exclude" (some 'x') "REGEX"
      "Regular expression of paths to exclude (repeatable, overrides the configuration)"
      fun v a => .ok { a with excludes := a.excludes ++ [v] },
    valueOption "tool" (some 't') "TOOL" "Tool to use (repeatable, overrides the configuration)"
      fun v a => .ok { a with tools := a.tools ++ [v] },
    valueOption "report" (some 'r') "TYPE[:FILE]"
      "Report to produce, optionally written to a file (repeatable)"
      fun v a => return { a with reports := a.reports ++ [← readReport v] },
    valueOption "config" (some 'c') "FILE" "Configuration file to use instead of the discovered one"
      fun v a => return { a with config := ← once a.config readPath v },
    verboseOption,
    valueOption "workers" none "NUM" "Number of tools to run concurrently"
      fun v a => return { a with workers := ← once a.workers readWorkers v },
    flagOption "disable-merge" "Do not merge equivalent issues reported by different tools"
      fun a => return { a with disableMerge := ← raise a.disableMerge },
    flagOption "disable-progress" "Do not display the progress bar"
      fun a => return { a with disableProgress := ← raise a.disableProgress },
    flagOption "disable-noqa" "Ignore \"# noqa\" comments"
      fun a => return { a with disableNoqa := ← raise a.disableNoqa },
    helpOption]

def checkAbout : String := "Execute the tools upon the project files"

def checkGrammar : Grammar (Draft CheckArgs) where
  usage := suiteName ++ " check [OPTIONS] [PATH]"
  about := checkAbout
  options := checkOptions
  positional := some
    { name := "PATH", meaning := "Base directory of the project to examine [default: .]"
      take := fun v d => return { d with options := { d.options with path := ← readPath v } } }

def formatMeaning : String :=
  "Output format [default: toml] [possible values: " ++
    ", ".intercalate (ListFormat.all.map ListFormat.name) ++ "]"

structure CodesArgs where
  tools : List String := []
  format : Option ListFormat := none

def codesAbout : String := "Output a listing of all known issue codes that tools may report"

def codesGrammar : Grammar (Draft CodesArgs) where
  usage := suiteName ++ " list-codes [OPTIONS]"
  about := codesAbout
  options :=
    [valueOption "tool" (some 't') "TOOL" "Only list the codes of this tool (repeatable)"
        fun v a => .ok { a with tools := a.tools ++ [v] },
      valueOption "format" (some 'f') "FORMAT" formatMeaning
        fun v a => return { a with format := ← once a.format readFormat v },
      verboseOption, helpOption]

def extensionsAbout : String := "Output a listing of the available tools and reports"

def extensionsGrammar : Grammar (Draft (Option ListFormat)) where
  usage := suiteName ++ " extensions [OPTIONS]"
  about := extensionsAbout
  options :=
    [valueOption "format" (some 'f') "FORMAT" formatMeaning
        fun v format => once format readFormat v,
      verboseOption, helpOption]

def defaultsAbout : String := "Output a default configuration to bootstrap your own"

def defaultsGrammar : Grammar (Draft Unit) where
  usage := suiteName ++ " default-config [OPTIONS]"
  about := defaultsAbout
  options := [verboseOption, helpOption]

def helpAbout : String := "Print this message or the help of the given subcommand(s)"

def rootGrammar : Grammar (Draft Unit) where
  usage := suiteName ++ " [OPTIONS] <COMMAND>"
  about := suiteName ++ " - Runs several analysis tools on a project and aggregates the results"
  options := [verboseOption, helpOption, versionOption]
  commands :=
    [("check", checkAbout), ("list-codes", codesAbout), ("default-config", defaultsAbout),
      ("extensions", extensionsAbout), ("help", helpAbout)]

def helpPage : HelpPage where
  about := helpAbout
  usage := suiteName ++ " help [COMMAND]..."
  sections := [("Arguments", [("[COMMAND]...", "Print help for the subcommand(s)")])]

def page? (name : String) : Option HelpPage :=
  match name with
  | "check" => some checkGrammar.page
  | "list-codes" => some codesGrammar.page
  | "default-config" => some defaultsGrammar.page
  | "extensions" => some extensionsGrammar.page
  | "help" => some helpPage
  | _ => none

/-- The page that is asked for by the names of commands; commands have no commands of their own. -/
def askedPage (names : List String) : Refusal :=
  match names with
  | [] => .help rootGrammar.page
  | name :: rest =>
    match page? name, rest with
    | none, _ => .unknownCommand name
    | some page, [] => .help page
    | some _, other :: _ => .unknownCommand other

def readCommand (name : String) (arguments : List String) : Except Refusal (Draft Command) :=
  match name with
  | "check" => do
    let d ← checkGrammar.read { options := {} } arguments
    return { verbose := d.verbose, options := .check d.options }
  | "list-codes" => do
    let d ← codesGrammar.read { options := {} } arguments
    return { verbose := d.verbose,
             options := .listCodes d.options.tools (d.options.format.getD .toml) }
  | "default-config" => do
    let d ← defaultsGrammar.read { options := () } arguments
    return { verbose := d.verbose, options := .defaultConfig }
  | "extensions" => do
    let d ← extensionsGrammar.read { options := none } arguments
    return { verbose := d.verbose, options := .extensions (d.options.getD .toml) }
  | _ => .error (askedPage arguments)

def parse (arguments : List String) : Except Refusal Invocation := do
  let (s, found) ← Scan.read rootGrammar { state := { options := () } } arguments
  match found with
  | none => .error (if s.state.verbose then .missingCommand else .nothing)
  | some (name, rest) =>
    let d ← readCommand name rest
    return { verbose := s.state.verbose || d.verbose, command := d.options }

end CommandLine

end MetaLint
