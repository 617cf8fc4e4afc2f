import MetaLint.Config.Document
import MetaLint.Pattern

/-!
# Errors of a run

What keeps a run, a tool or a report from doing its work.
-/

set_option autoImplicit false

namespace MetaLint

open Json

inductive ReportError
  | badTemplate (reason : String)
  | unwritable (path : Path) (fault : Disk.Fault)
  | note (text : String)
  deriving Repr

def ReportError.message : ReportError → String
  | .badTemplate reason => "Invalid format for custom report: " ++ reason
  | .unwritable path fault => "Failed to write " ++ path.text ++ ": " ++ fault.message
  | .note text => text

inductive Error
  | config (e : ConfigError)
  | tool (text : String)
  | report (e : ReportError)
  | pattern (e : Pattern.Refusal)
  | serialization (e : ShapeError)
  | io (fault : Disk.Fault)
  deriving Repr

def Error.message : Error → String
  | .config e => "Configuration error: " ++ e.message
  | .tool text => "Tool error: " ++ text
  | .report e => "Report error: " ++ e.message
  | .pattern e => "Invalid pattern: " ++ e.message
  | .serialization e => "Serialization error: " ++ e.message
  | .io fault => "I/O error: " ++ fault.message

namespace Error

def lift {ε α : Type} (wrap : ε → Error) : Except ε α → Except Error α
  | .ok a => .ok a
  | .error e => .error (wrap e)

end Error

def compilePatterns (texts : List String) : Except Error (List Pattern) :=
  Error.lift .pattern (Pattern.compileAll texts)

end MetaLint
