import MetaLint.Config.Basic
import MetaLint.Issue.Order
import MetaLint.Suppression
import MetaLint.Disk

/-!
# Collecting issues

A collector takes the issues of a run and shows a cleaned view of them: the suite's own issues with
a disabled code and those that a directive suppresses are dropped, then duplicates are merged. The
view is computed when it is asked for and kept until the next issue comes in. The directives of a
file are read once, when an issue in it is first looked at, and kept for good; file names with equal
components are one file.

Reading the view takes three steps: a snapshot of the raw issues, the cleaning of that snapshot, and
the storing of the result, which is left out when issues came in meanwhile.
-/

set_option autoImplicit false

namespace MetaLint

structure CleanSettings where
  disabled : List String := []
  mergeIssues : Bool := true
  noqa : Bool := true
  noqaExtensions : List String := ["py", "pyi"]
  deriving Repr, DecidableEq, Inhabited

namespace CleanSettings

def distinct (texts : List String) : List String := Keyed.names (Keyed.ofList (texts.map (·, ())))

def bareExtension (e : String) : String := String.ofList (e.toList.dropWhile (· == '.'))

def ofConfig (c : Config) : CleanSettings where
  disabled := distinct c.disabled
  mergeIssues := c.mergeIssues
  noqa := c.noqa
  noqaExtensions := distinct (c.noqaExtensions.map bareExtension)

def disables (s : CleanSettings) (i : Issue) : Bool :=
  i.isSelfReported && i.code.elim false s.disabled.contains

def scans (s : CleanSettings) (p : Path) : Bool :=
  p.extension?.elim false fun e => s.noqaExtensions.contains e.shown

def keeps (s : CleanSettings) (index : Path → SuppressionIndex) (i : Issue) : Bool :=
  !s.disables i && (!s.noqa || !(index i.filename).suppresses i)

def merged (s : CleanSettings) (kept : List Issue) : List Issue :=
  if s.mergeIssues then Issue.merge kept else kept

def clean (s : CleanSettings) (index : Path → SuppressionIndex) (raw : List Issue) : List Issue :=
  s.merged (raw.filter (s.keeps index))

end CleanSettings

abbrev DirectiveCache := List (Path × SuppressionIndex)

namespace DirectiveCache

def find? (cache : DirectiveCache) (p : Path) : Option SuppressionIndex :=
  (List.find? (fun entry => p.same entry.1) cache).map Prod.snd

def get (cache : DirectiveCache) (p : Path) : SuppressionIndex := (cache.find? p).getD .empty

def insertNew (cache : DirectiveCache) (p : Path) (index : SuppressionIndex) : DirectiveCache :=
  if (cache.find? p).isSome then cache else cache ++ [(p, index)]

end DirectiveCache

structure Collector where
  settings : CleanSettings := {}
  raw : List Issue := []
  cleaned : Option (List Issue) := none
  generation : Nat := 0
  directives : DirectiveCache := []
  failed : Bool := false
  deriving Inhabited

namespace Collector

def create (settings : CleanSettings) : Collector := { settings }

def ofConfig (c : Config) : Collector := create (.ofConfig c)

/-- Issues at the end of the raw ones. The cleaned view is no longer valid. -/
def add (c : Collector) (issues : List Issue) : Collector :=
  { c with raw := c.raw ++ issues, cleaned := none, generation := c.generation + 1 }

def markFailed (c : Collector) : Collector := { c with failed := true }

/-! ## Directives -/

def loadIndex (s : CleanSettings) (d : Disk) (p : Path) : SuppressionIndex :=
  if s.scans p then .ofFile (d.read p).toOption else .empty

def ensureIndex (s : CleanSettings) (d : Disk) (cache : DirectiveCache) (p : Path) :
    DirectiveCache :=
  if (cache.find? p).isSome then cache else cache.insertNew p (loadIndex s d p)

def filesToScan (s : CleanSettings) (raw : List Issue) : List Path :=
  if s.noqa then (raw.filter fun i => !s.disables i).map Issue.filename else []

def ensureIndexes (s : CleanSettings) (d : Disk) (cache : DirectiveCache) (raw : List Issue) :
    DirectiveCache :=
  (filesToScan s raw).foldl (ensureIndex s d) cache

/-! ## The cleaned view -/

structure Snapshot where
  raw : List Issue
  generation : Nat
  deriving Inhabited

def snapshot (c : Collector) : Snapshot := ⟨c.raw, c.generation⟩

/-- Keeps a cleaned view, unless issues came in since its snapshot. -/
def store (c : Collector) (generation : Nat) (view : List Issue) : Collector :=
  if c.generation = generation then { c with cleaned := some view } else c

def view (c : Collector) (d : Disk) : List Issue × Collector :=
  match c.cleaned with
  | some view => (view, c)
  | none =>
    let shot := c.snapshot
    let c := { c with directives := ensureIndexes c.settings d c.directives shot.raw }
    let view := c.settings.clean c.directives.get shot.raw
    (view, c.store shot.generation view)

def issues (c : Collector) (d : Disk) (order : List Issue.Field) : List Issue × Collector :=
  let (view, c) := c.view d
  (Issue.sortBy order view, c)

def grouped {κ : Type} (c : Collector) (d : Disk) (cmp : κ → κ → Ordering) (key : Issue → κ)
    (order : List Issue.Field) : Grouped κ Issue × Collector :=
  let (view, c) := c.view d
  ((Grouped.byKey cmp key view).map fun g => (g.1, Issue.sortBy order g.2), c)

def byFile (c : Collector) (d : Disk) (order : List Issue.Field) : Grouped Path Issue × Collector :=
  c.grouped d Path.cmp Issue.filename order

def rawCount (c : Collector) : Nat := c.raw.length

def count (c : Collector) (d : Disk) : Nat × Collector :=
  let (view, c) := c.view d
  (view.length, c)

@[simp] theorem raw_add (c : Collector) (issues : List Issue) :
    (c.add issues).raw = c.raw ++ issues := rfl

end Collector

end MetaLint
