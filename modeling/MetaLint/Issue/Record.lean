import MetaLint.Issue.Basic
import MetaLint.Json.Shape
import MetaLint.Json.Parser

/-!
# Issues as JSON records

An issue is read from an object by field names, or from a list of its fields in order. A severity
may be missing; a code or a column may be missing from an object. Unknown members are passed over.
-/

set_option autoImplicit false

namespace MetaLint

open Json

namespace Severity

def ofText (name : String) : Shaped Severity :=
  match ofName? name with
  | some s => .ok s
  | none => .error (.unknownVariant name (all.map Severity.name))

/-- A severity is its name, or an object with the name as its only key and `null` as its value. -/
def ofValue : Value → Shaped Severity
  | .text name => ofText name
  | .object [(name, v)] => do
    let s ← ofText name
    match v with
    | .null => .ok s
    | v => wrongType v "unit"
  | .object members =>
    .error (.invalidValue (Value.object members).found "map with a single key")
  | v => wrongType v "string or map"

end Severity

namespace Issue

structure Fields where
  tool : Option String := none
  code : Option (Option String) := none
  message : Option String := none
  filename : Option String := none
  line : Option UInt32 := none
  character : Option (Option UInt32) := none
  severity : Option Severity := none

namespace Fields

def takeTool (f : Fields) (v : Value) : Shaped Fields := return { f with tool := some (← asText v) }

def takeCode (f : Fields) (v : Value) : Shaped Fields :=
  return { f with code := some (← optional asText v) }

def takeMessage (f : Fields) (v : Value) : Shaped Fields :=
  return { f with message := some (← asText v) }

def takeFilename (f : Fields) (v : Value) : Shaped Fields :=
  return { f with filename := some (← asPathText v) }

def takeLine (f : Fields) (v : Value) : Shaped Fields :=
  return { f with line := some (← asUInt32 v) }

def takeCharacter (f : Fields) (v : Value) : Shaped Fields :=
  return { f with character := some (← optional asUInt32 v) }

def takeSeverity (f : Fields) (v : Value) : Shaped Fields :=
  return { f with severity := some (← Severity.ofValue v) }

def take (f : Fields) (name : String) (v : Value) : Shaped Fields :=
  match name with
  | "tool" => f.takeTool v
  | "code" => f.takeCode v
  | "message" => f.takeMessage v
  | "filename" => f.takeFilename v
  | "line" => f.takeLine v
  | "character" => f.takeCharacter v
  | "severity" => f.takeSeverity v
  | _ => .ok f

def inOrder : List (Fields → Value → Shaped Fields) :=
  [takeTool, takeCode, takeMessage, takeFilename, takeLine, takeCharacter, takeSeverity]

def finish (f : Fields) : Shaped Issue := do
  let tool ← required "tool" f.tool
  let message ← required "message" f.message
  let filename ← required "filename" f.filename
  let line ← required "line" f.line
  return { tool, code := f.code.join, message, filename := ⟨filename⟩, line,
           character := f.character.join, severity := f.severity.getD .error }

end Fields

/-- Fewer fields than a list needs; only the severity may be missing. -/
def tooShort (length : Nat) : ShapeError := .invalidLength length "struct Issue with 7 elements"

def ofValue : Value → Shaped Issue
  | .object members => do (← foldMembers Fields.take {} members).finish
  | .list items =>
    if items.length < 6 then do
      let _ ← foldItems items.length {} Fields.inOrder items
      .error (tooShort items.length)
    else do (← foldItems items.length {} Fields.inOrder items).finish
  | v => wrongType v "struct Issue"

def nullable {α : Type} (write : α → Value) : Option α → Value
  | some a => write a
  | none => .null

def toValue (i : Issue) : Value :=
  Value.ofMembers
    [("tool", .text i.tool), ("code", nullable .text i.code), ("message", .text i.message),
     ("filename", .text i.filename.text), ("line", .ofNat i.line.toNat),
     ("character", nullable (fun c : UInt32 => .ofNat c.toNat) i.character),
     ("severity", .text i.severity.name)]

end Issue

end MetaLint
