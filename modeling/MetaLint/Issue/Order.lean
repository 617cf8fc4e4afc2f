import MetaLint.Issue.Basic
import MetaLint.Keyed

/-!
# Sorting and merging issues

A field of an issue is a sort key. Sorting by a list of fields sorts stably by each field, the last
one first, which amounts to one stable sort by the composite key.

Issues are merged by file and line. In each group, ordered by tool, code and column, one issue
stands for every run of issues with the same tool and code. A tool report stands for itself alone.
-/

set_option autoImplicit false

namespace MetaLint

namespace Issue

inductive Field
  | filename
  | line
  | character
  | tool
  | code
  | message
  deriving Repr, DecidableEq

def column (i : Issue) : UInt32 := i.character.getD 0

namespace Field

/-- The order of two issues by one field; file names by text, a missing code as the empty one. -/
def cmp : Field → Issue → Issue → Ordering
  | .filename, a, b => compare a.filename.raw b.filename.raw
  | .line, a, b => compare a.line b.line
  | .character, a, b => compare a.column b.column
  | .tool, a, b => compare a.tool b.tool
  | .code, a, b => compare a.codeText b.codeText
  | .message, a, b => compare a.message b.message

def names : List (String × Field) :=
  [("filename", .filename), ("file", .filename), ("line", .line), ("character", .character),
   ("column", .character), ("tool", .tool), ("code", .code), ("message", .message)]

/-- The field a name stands for, in any case. No letter outside ASCII has a lower case that occurs
in a field name. -/
def ofName? (name : String) : Option Field :=
  names.lookup (String.ofList (name.toList.map Char.toLower))

end Field

def cmpBy : List Field → Issue → Issue → Ordering
  | [], _, _ => .eq
  | f :: rest, a, b => (f.cmp a b).then (cmpBy rest a b)

def sortByField (f : Field) (issues : List Issue) : List Issue :=
  issues.mergeSort fun a b => (f.cmp a b).isLE

/-- One stable sort per field, the last field first. -/
def sortBy (fields : List Field) (issues : List Issue) : List Issue :=
  fields.foldr sortByField issues

def defaultOrder : List Field := [.filename, .line, .character, .tool, .code]

def placeOrder : List Field := [.filename, .line, .character]

theorem sortBy_cons (f : Field) (fields : List Field) (issues : List Issue) :
    sortBy (f :: fields) issues = sortByField f (sortBy fields issues) := rfl

theorem sortByField_perm (f : Field) (issues : List Issue) :
    (sortByField f issues).Perm issues := List.mergeSort_perm _ _

theorem sortBy_perm (fields : List Field) (issues : List Issue) :
    (sortBy fields issues).Perm issues := by
  induction fields with
  | nil => exact List.Perm.refl _
  | cons f rest ih => exact (sortByField_perm f _).trans ih

end Issue

end MetaLint

namespace MetaLint.Issue

def repeats (kept next : Issue) : Bool :=
  !kept.isToolReport && next.tool == kept.tool && next.code == kept.code

def collapseAfter (drops : Issue → Issue → Bool) (kept : Issue) : List Issue → List Issue
  | [] => []
  | next :: rest =>
    if drops kept next then collapseAfter drops kept rest
    else next :: collapseAfter drops next rest

/-- The issues that are not dropped by the last one kept before them. -/
def collapseBy (drops : Issue → Issue → Bool) : List Issue → List Issue
  | [] => []
  | first :: rest => first :: collapseAfter drops first rest

def collapse (issues : List Issue) : List Issue := collapseBy repeats issues

def cmpPlace (a b : Path × UInt32) : Ordering := (a.1.cmp b.1).then (compare a.2 b.2)

def place (i : Issue) : Path × UInt32 := (i.filename, i.line)

def mergeOrder : List Field := [.tool, .code, .character]

/-- The issues of one line of one file, merged. -/
def mergeLine (issues : List Issue) : List Issue := collapse (sortBy mergeOrder issues)

def merge (issues : List Issue) : List Issue :=
  (Grouped.byKey cmpPlace place issues).flatMap fun group => mergeLine group.2

section Collapse
variable (drops : Issue → Issue → Bool)

theorem collapseAfter_sublist (kept : Issue) (issues : List Issue) :
    (collapseAfter drops kept issues).Sublist issues := by
  induction issues generalizing kept with
  | nil => exact List.Sublist.refl _
  | cons next rest ih =>
    by_cases h : drops kept next = true
    · simpa [collapseAfter, h] using (ih kept).cons next
    · simpa [collapseAfter, h] using (ih next).cons_cons next

theorem collapseBy_sublist (issues : List Issue) : (collapseBy drops issues).Sublist issues := by
  cases issues with
  | nil => exact List.Sublist.refl _
  | cons first rest => exact (collapseAfter_sublist drops first rest).cons_cons first

end Collapse

end MetaLint.Issue
