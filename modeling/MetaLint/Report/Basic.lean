import MetaLint.Collector
import MetaLint.Error

/-!
# Reports

A report turns the cleaned issues of a collector into text. Some need no issues at all, and a report
whose options are wrong fails before it looks at any.
-/

set_option autoImplicit false

namespace MetaLint

structure ReportContext where
  project : Path
  config : ReportConfig
  tools : List String := []
  color : Bool := false
  started : String := ""
  completed : String := ""
  deriving Repr, Inhabited

namespace ReportContext

/-- The path of an issue as a report shows it. -/
def pathOf (ctx : ReportContext) (i : Issue) : String := i.filename.relativeTo ctx.project

end ReportContext

/-- What a report writes, piece by piece, and the error that it ends with if it fails. It may fail
when it has written something. -/
structure Production where
  pieces : List String
  error : Option Error := none

namespace Production

def whole (text : String) : Production := { pieces := [text] }

def failed (e : Error) : Production := { pieces := [], error := some e }

def writeTo (p : Production) (buffer : String) : String := p.pieces.foldl (· ++ ·) buffer

end Production

/-- A report writes something of its own, or something made of the cleaned issues. -/
inductive ReportBody
  | fixed (p : Production)
  | ofIssues (write : List Issue → Production)

structure Report where
  name : String
  description : String
  body : ReportContext → ReportBody

namespace Report

def ofIssues (name description : String) (write : ReportContext → List Issue → String) : Report :=
  { name, description, body := fun ctx => .ofIssues fun view => .whole (write ctx view) }

def produce (r : Report) (c : Collector) (d : Disk) (ctx : ReportContext) :
    Production × Collector :=
  match r.body ctx with
  | .fixed p => (p, c)
  | .ofIssues write =>
    let (view, c) := c.view d
    (write view, c)

/-- Lets a report write into a buffer of its own, which is dropped if the report fails. -/
def render (r : Report) (c : Collector) (d : Disk) (ctx : ReportContext) :
    Except Error String × Collector :=
  let (p, c) := r.produce c d ctx
  let buffer := p.writeTo ""
  match p.error with
  | some e => (.error e, c)
  | none => (.ok buffer, c)

section Render
variable {r : Report} {c : Collector} {d : Disk} {ctx : ReportContext}

theorem render_of_whole {text : List Issue → String}
    (h : r.body ctx = .ofIssues fun view => .whole (text view)) :
    r.render c d ctx = (.ok (text (c.view d).1), (c.view d).2) := by
  simp [render, produce, h, Production.whole, Production.writeTo]

theorem render_of_failed {e : Error} (h : r.body ctx = .fixed (.failed e)) :
    r.render c d ctx = (.error e, c) := by
  simp [render, produce, h, Production.failed]

end Render

end Report

def issuesByFile (view : List Issue) : Grouped Path Issue :=
  (Grouped.byKey Path.cmp Issue.filename view).map fun g =>
    (g.1, Issue.sortBy Issue.defaultOrder g.2)

def linesText (lines : List String) : String := String.join (lines.map (· ++ "\n"))

def numberString (n : UInt32) : String := Json.digitsText n.toNat

end MetaLint
