import MetaLint.Finder.Walk
import MetaLint.Error

/-!
# Finding files

A finder holds the files of a project as they were when it was created. Its lists are selected by
patterns. A file is read once: later readers get the same content whatever happens on the disk.
-/

set_option autoImplicit false

namespace MetaLint

structure Finder where
  project : Path
  /-- Directories in ascending order, each with its files in the order of their names. -/
  found : List (Path × List Path)
  contents : List (Path × List Char) := []
  deriving Inhabited

namespace Finder

def below (p : Path) (names : Location) : Path := names.foldl Path.join p

/-- The files of a project, which may be a single file. -/
def create (d : Disk) (project : Path) (c : Config) : Except Error Finder := do
  let location ← Error.lift .io (d.trace project)
  let excludes ← compilePatterns c.exclude
  let root := Disk.pathOf location
  match d.root.get? location with
  | some (.dir entries) =>
    let settings : WalkSettings := { excludes, respectGitignore := c.respectGitignore }
    let listing := walkProject settings d location (.dir entries)
    return { project := root,
             found := listing.map fun (dir, files) =>
               (below root dir, files.map fun f => (below root dir).join f) }
  | _ =>
    return { project := root, found := [(Disk.pathOf location.dropLast, [root]), (root, [])] }

def relative (f : Finder) (p : Path) : String := p.relativeTo f.project

def allFiles (f : Finder) : List Path := f.found.flatMap Prod.snd

def fileCount (f : Finder) : Nat := f.allFiles.length

/-- The files whose relative path is selected. -/
def files (f : Finder) (filters : List String) : Except Error (List Path) := do
  let patterns ← compilePatterns filters
  return f.allFiles.filter fun p => Pattern.selects patterns (f.relative p)

def holds (patterns : List Pattern) (files : List Path) : Bool :=
  files.any fun p => p.fileName?.elim false fun name => Pattern.selects patterns name.shown

/-- The directories whose relative path is selected. If `containing` says anything, they must hold a
file whose name is selected. -/
def directories (f : Finder) (filters containing : List String) : Except Error (List Path) := do
  let patterns ← compilePatterns filters
  let contents ← compilePatterns containing
  return (f.found.filter fun (dir, files) =>
    Pattern.selects patterns (f.relative dir) &&
      (containing.isEmpty || holds contents files)).map Prod.fst

def cached? (f : Finder) (p : Path) : Option (List Char) :=
  (f.contents.find? fun entry => p.same entry.1).map Prod.snd

def keep (f : Finder) (p : Path) (text : List Char) : Finder :=
  { f with contents := (p, text) :: f.contents }

def read (f : Finder) (d : Disk) (p : Path) : Except Disk.Fault (List Char) × Finder :=
  match f.cached? p with
  | some text => (.ok text, f)
  | none =>
    match d.read p with
    | .ok bytes =>
      let text := Text.decodeLossy bytes
      (.ok text, f.keep p text)
    | .error fault => (.error fault, f)

end Finder

end MetaLint
