import MetaLint.Command.Catalog

/-!
# The program

The program performs the command of its command line. Its exit code says whether all is well: 0
without issues, 1 with issues, 2 when there is no answer.
-/

set_option autoImplicit false

namespace MetaLint

namespace Workplace

def perform (w : Workplace) : Command → CommandEnd
  | .check args => w.check args
  | .listCodes tools format => w.listCodes tools format
  | .defaultConfig => w.showDefaults
  | .extensions format => w.listExtensions format

end Workplace

structure ProgramEnd where
  exitCode : UInt8
  out : String
  complaint : Option String
  disk : Disk

def CommandEnd.exitCode (e : CommandEnd) : UInt8 :=
  match e.result with
  | .ok false => 0
  | .ok true => 1
  | .error _ => 2

def versionText : String := suiteName ++ " " ++ suiteVersion ++ "\n"

namespace CommandLine.Refusal

/-- What a refused command line shows on standard output; a page that was asked for is no
failure. -/
def shown? : Refusal → Option String
  | .help page => some page.text
  | .version => some versionText
  | _ => none

def complaint : Refusal → String
  | .help page => page.text
  | .version => versionText
  | .nothing => rootGrammar.page.text
  | .missingCommand => "a command is required"
  | .unknownCommand name => "unknown command: " ++ name
  | .unknownArgument argument => "unexpected argument: " ++ argument
  | .missingValue => "a value is required"
  | .unknownChoice value => "invalid value: " ++ value
  | .badValue value => "invalid value: " ++ value
  | .unexpectedValue value => "unexpected value: " ++ value
  | .repeated => "an option cannot be used multiple times"

end CommandLine.Refusal

namespace Workplace

def runProgram (w : Workplace) (arguments : List String) : ProgramEnd :=
  match CommandLine.parse arguments with
  | .error refusal =>
    match refusal.shown? with
    | some text => { exitCode := 0, out := text, complaint := none, disk := w.disk }
    | none =>
      { exitCode := 2, out := "", complaint := some refusal.complaint, disk := w.disk }
  | .ok invocation =>
    let e := w.perform invocation.command
    let complaint := match e.result with
      | .ok _ => none
      | .error e => some e.message
    { exitCode := e.exitCode, out := e.out, complaint, disk := e.disk }

end Workplace

end MetaLint
