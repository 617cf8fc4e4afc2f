import MetaLint.Finder
import MetaLint.Streams

/-!
# Tools

A tool examines the files of a project and returns issues. It may also fail, write to the standard
streams, or ask for the run to be cancelled.
-/

set_option autoImplicit false

namespace MetaLint

structure CodeInfo where
  code : String
  description : String
  deriving Repr, DecidableEq, Inhabited

inductive ToolFailure
  | error (e : Error)
  | crashed (text : Option String)
  deriving Repr

def ToolFailure.message : ToolFailure → String
  | .error e => e.message
  | .crashed (some text) => "panicked: " ++ text
  | .crashed none => "panicked"

structure ToolRun where
  result : Except ToolFailure (List Issue)
  finder : Finder
  written : List StreamWrite := []
  cancels : Bool := false

def ToolRun.ofResult (result : Except Error (List Issue) × Finder) : ToolRun where
  result := match result.1 with
    | .ok issues => .ok issues
    | .error e => .error (.error e)
  finder := result.2

structure Tool where
  name : String
  description : String
  usable : Bool := true
  defaults : ToolConfig := {}
  codes : List CodeInfo
  execute : Finder → Disk → ToolConfig → ToolRun

namespace Tool

/-! ## Options -/

/-- The options of a tool. Options that are `null` are the default ones. -/
def readOptions {α : Type} (tool : String) (default : α) (read : Json.Value → Json.Shaped α)
    (c : ToolConfig) : Except Error α :=
  match c.options with
  | .null => .ok default
  | v => Error.lift (fun e => .config (.badOptions tool e)) (read v)

/-! ## Scanning files -/

/-- The issue about a file that could not be read. -/
def readFailure (fault : Disk.Fault) (p : Path) : Issue :=
  match fault with
  | .notFound | .denied => .access fault.message p
  | _ => .unexpected fault.message p

/-- Reads the files one after the other: what each reading came to, and the finder after it. -/
def readAll (f : Finder) (d : Disk) :
    List Path → List (Path × Except Disk.Fault (List Char)) × Finder
  | [] => ([], f)
  | p :: rest =>
    let (result, f) := f.read d p
    let (results, f) := readAll f d rest
    ((p, result) :: results, f)

def scanned (scan : Path → List Char → List Issue)
    (read : List (Path × Except Disk.Fault (List Char))) : List Issue :=
  read.flatMap fun (p, result) =>
    match result with
    | .ok text => scan p text
    | .error _ => []

def unread (read : List (Path × Except Disk.Fault (List Char))) : List Issue :=
  read.filterMap fun (p, result) =>
    match result with
    | .ok _ => none
    | .error fault => some (readFailure fault p)

/-- Scans the files that the filters select. Disabled codes are left out of what the scan finds;
issues about files that could not be read come last and are always kept. -/
def scanFiles (f : Finder) (d : Disk) (c : ToolConfig) (scan : Path → List Char → List Issue) :
    Except Error (List Issue) × Finder :=
  match f.files c.filters with
  | .error e => (.error e, f)
  | .ok files =>
    let (read, f) := readAll f d files
    (.ok (c.retainEnabled (scanned scan read) ++ unread read), f)

def textFilters : List String :=
  ["\\.(c|cc|cpp|go|h|hpp|java|rs)$", "\\.(css|html|js|jsx|ts|tsx|xml)$", "\\.(py|pyi|rb|sh|sql)$",
   "\\.(cfg|ini|json|toml|ya?ml)$", "\\.(md|rst|txt)$"]

def lineNumber (n : Nat) : Option UInt32 := some (UInt32.ofNat n)

end Tool

end MetaLint
