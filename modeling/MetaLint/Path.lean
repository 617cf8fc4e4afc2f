import MetaLint.Text.Utf8

/-!
# Paths

A path is a name of the system; what it denotes is its list of components. Repeated separators, a
separator at the end and single dots inside a path leave no component, so paths that are spelled
differently can have equal components. Paths have two orders: by components, and by spelling.
-/

set_option autoImplicit false

namespace MetaLint

structure Path where
  raw : OsText
  deriving Repr, DecidableEq, Inhabited

namespace Path

def text (p : Path) : String := p.raw.shown

def separator : UInt8 := 0x2F

def separated (names : List OsText) : OsText := ⟨[separator].intercalate (names.map OsText.bytes)⟩

/-- One step of a path. The order of the constructors is the order of components. -/
inductive Component
  | root
  | here
  | up
  | name (raw : OsText)
  deriving Repr, DecidableEq

/-- A component inside a path. -/
def Component.raw : Component → OsText
  | .root => "/"
  | .here => "."
  | .up => ".."
  | .name raw => raw

def Component.text (c : Component) : String := c.raw.shown

def Component.rank : Component → Nat
  | .root => 0
  | .here => 1
  | .up => 2
  | .name _ => 3

def Component.cmp : Component → Component → Ordering
  | .name a, .name b => compare a b
  | a, b => compare a.rank b.rank

def piecesFrom (piece : Text.Bytes) : Text.Bytes → List OsText
  | [] => [⟨piece.reverse⟩]
  | b :: rest =>
    if b = separator then ⟨piece.reverse⟩ :: piecesFrom [] rest else piecesFrom (b :: piece) rest

def pieces (raw : OsText) : List OsText := piecesFrom [] raw.bytes

def Component.ofPiece? (piece : OsText) : Option Component :=
  if piece = ("" : OsText) || piece = ("." : OsText) then none
  else if piece = (".." : OsText) then some .up
  else some (.name piece)

/-- An absolute path starts with `root`; a relative one keeps a leading single dot. -/
def components (p : Path) : List Component :=
  match pieces p.raw with
  | [] => []
  | first :: rest =>
    let start : List Component :=
      if first = ("" : OsText) then (if rest.isEmpty then [] else [.root])
      else if first = ("." : OsText) then [.here]
      else (Component.ofPiece? first).toList
    start ++ rest.filterMap Component.ofPiece?

def same (p q : Path) : Bool := p.components == q.components

def cmp (p q : Path) : Ordering := List.compareLex Component.cmp p.components q.components

def joinComponents (cs : List Component) : String := "/".intercalate (cs.map Component.text)

def stripBase? (p base : Path) : Option (List Component) :=
  List.isPrefixOf? base.components p.components

/-- `p` as seen from `base`: `.` for `base` itself, and the text of `p` when it lies elsewhere. -/
def relativeTo (p base : Path) : String :=
  match p.stripBase? base with
  | none => p.text
  | some [] => "."
  | some cs => joinComponents cs

def startsAtRoot (raw : OsText) : Bool := raw.bytes.head? == some separator

def endsOpen (p : Path) : Bool := p.raw.bytes.getLast? == some separator

/-- `p` with `name` below it; an absolute `name` stands for itself. -/
def join (p : Path) (name : OsText) : Path :=
  if startsAtRoot name then ⟨name⟩
  else if p.raw.bytes.isEmpty || p.endsOpen then ⟨p.raw ++ name⟩
  else ⟨p.raw ++ ("/" : OsText) ++ name⟩

def fileName? (p : Path) : Option OsText :=
  match p.components.getLast? with
  | some (.name raw) => some raw
  | _ => none

def dot : UInt8 := 0x2E

/-- What follows the last dot of a file name that does not start with that dot. -/
def extensionOf (name : OsText) : Option OsText :=
  if name = (".." : OsText) then none
  else if name.bytes.contains dot then
    let after := (name.bytes.reverse.takeWhile (· != dot)).reverse
    if after.length + 1 = name.bytes.length then none else some ⟨after⟩
  else none

def extension? (p : Path) : Option OsText := p.fileName?.bind extensionOf

theorem same_iff (p q : Path) : p.same q = true ↔ p.components = q.components := by
  simp [same]

end Path

end MetaLint
