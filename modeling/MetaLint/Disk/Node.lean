import MetaLint.Text.Utf8

/-!
# Directory trees

A node is a regular file, a symbolic link or a directory. A file may be locked, so that it is seen
but not opened. A location is the list of names that leads from the root of a tree to one of its
nodes. A name that is written anew keeps its place among the entries.
-/

set_option autoImplicit false

namespace MetaLint

open Text (Bytes)

inductive Node
  | file (content : Bytes)
  | locked
  | link (target : OsText)
  | dir (entries : List (OsText × Node))
  deriving Repr, Inhabited

abbrev Location := List OsText

namespace Node

def isFile : Node → Bool
  | .file _ | .locked => true
  | _ => false

def isDir : Node → Bool
  | .dir _ => true
  | _ => false

def entries : Node → List (OsText × Node)
  | .dir es => es
  | _ => []

def child? (n : Node) (name : OsText) : Option Node := n.entries.lookup name

def get? : Node → Location → Option Node
  | n, [] => some n
  | n, name :: rest => (n.child? name).bind (get? · rest)

def putEntry (name : OsText) (node : Node) : List (OsText × Node) → List (OsText × Node)
  | [] => [(name, node)]
  | (k, old) :: rest =>
    if k = name then (name, node) :: rest else (k, old) :: putEntry name node rest

/-- The tree with `node` at a location whose parent is a directory; other trees stay as they are. -/
def put (node : Node) : Location → Node → Node
  | [], _ => node
  | name :: rest, .dir es =>
    match rest, es.lookup name with
    | [], _ => .dir (putEntry name node es)
    | _, some child => .dir (putEntry name (put node rest child) es)
    | _, none => .dir es
  | _, other => other

def remove : Location → Node → Node
  | [], n => n
  | [name], .dir es => .dir (es.filter (·.1 != name))
  | name :: rest, .dir es =>
    match es.lookup name with
    | some child => .dir (putEntry name (remove rest child) es)
    | none => .dir es
  | _, n => n

mutual

def files : Node → List (Location × Bytes)
  | .file content => [([], content)]
  | .locked | .link _ => []
  | .dir es => filesBelow es

def filesBelow : List (OsText × Node) → List (Location × Bytes)
  | [] => []
  | (name, node) :: rest => (files node).map (fun f => (name :: f.1, f.2)) ++ filesBelow rest

end

theorem lookup_putEntry_self (name : OsText) (node : Node) (es : List (OsText × Node)) :
    (putEntry name node es).lookup name = some node := by
  induction es with
  | nil => simp [putEntry]
  | cons e rest ih =>
    obtain ⟨k, old⟩ := e
    by_cases h : k = name
    · simp [putEntry, h]
    · have hk : (name == k) = false := by simp [Ne.symm h]
      simp [putEntry, h, List.lookup_cons, hk, ih]

theorem lookup_putEntry_of_ne {name other : OsText} (h : other ≠ name) (node : Node)
    (es : List (OsText × Node)) : (putEntry name node es).lookup other = es.lookup other := by
  induction es with
  | nil =>
    have : (other == name) = false := by simp [h]
    simp [putEntry, List.lookup_cons, this]
  | cons e rest ih =>
    obtain ⟨k, old⟩ := e
    by_cases hk : k = name
    · subst hk
      have : (other == k) = false := by simp [h]
      simp [putEntry, List.lookup_cons, this]
    · by_cases ho : (other == k) = true
      · simp [putEntry, hk, List.lookup_cons, ho]
      · simp [putEntry, hk, List.lookup_cons, ho, ih]

@[simp] theorem get?_nil (n : Node) : n.get? [] = some n := by cases n <;> rfl

theorem get?_cons (n : Node) (name : OsText) (rest : Location) :
    n.get? (name :: rest) = (n.child? name).bind (·.get? rest) := by cases n <;> rfl

end Node

end MetaLint
