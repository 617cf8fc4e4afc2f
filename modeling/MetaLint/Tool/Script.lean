import MetaLint.Tool.Basic
import MetaLint.Issue.Record

/-!
# Scripted tools

A script says what a tool does when it is executed: what it writes, whether it asks for the run to
be cancelled, whether it crashes or fails, and which issues it returns.
-/

set_option autoImplicit false

namespace MetaLint

structure ToolScript where
  out : Option Text.Bytes := none
  err : Option Text.Bytes := none
  cancels : Bool := false
  crash : Option (Option String) := none
  failure : Option String := none
  issues : List Json.Value := []
  perFile : Option String := none
  deriving Inhabited

namespace ToolScript

def writes (s : ToolScript) : List StreamWrite :=
  (s.out.map (StreamWrite.mk .out)).toList ++ (s.err.map (StreamWrite.mk .err)).toList

def fileIssues (s : ToolScript) (name : String) (f : Finder) (c : ToolConfig) :
    Except Error (List Issue) :=
  match s.perFile with
  | none => .ok []
  | some code => do
    let files ← f.files c.filters
    return files.map fun p => .create name code ("saw " ++ code) p

/-- A crash comes before a failure, and a failure before the issues. -/
def result (s : ToolScript) (name : String) (f : Finder) (c : ToolConfig) :
    Except ToolFailure (List Issue) :=
  match s.crash, s.failure with
  | some text, _ => .error (.crashed text)
  | none, some text => .error (.error (.tool text))
  | none, none =>
    let issues : Except Error (List Issue) := do
      let given ← Error.lift .serialization (s.issues.mapM Issue.ofValue)
      let seen ← s.fileIssues name f c
      return c.retainEnabled (given ++ seen)
    match issues with
    | .ok issues => .ok issues
    | .error e => .error (.error e)

def run (s : ToolScript) (name : String) (f : Finder) (c : ToolConfig) : ToolRun where
  result := s.result name f c
  finder := f
  written := s.writes
  cancels := s.cancels

end ToolScript

end MetaLint
