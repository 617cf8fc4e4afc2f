import MetaLint.Ignore.Rules
import MetaLint.Pattern
import MetaLint.Disk

/-!
# Walking a project

A walk visits the directories below a project and lists the regular files in each. It does not enter
directories with certain names, and leaves out every entry that an exclude pattern matches or that
ignore rules tell it to leave out. Symbolic links are neither listed nor followed. The rules are
those of the files in the tree and above it, and of each copy of a repository; there are no rules
that a user has for all projects.
-/

set_option autoImplicit false

namespace MetaLint

def alwaysExcluded : List String :=
  [".hg", ".git", ".svn", "CVS", ".bzr", "__pycache__", ".tox"]

def isAlwaysExcluded (name : String) : Bool :=
  alwaysExcluded.contains name || (Text.stripTail ".egg-info".toList name.toList).isSome

/-- The rules that hold in one directory: those for the project and those for one copy of it. -/
structure IgnoreLevel where
  base : Location
  shared : IgnoreRules := []
  own : IgnoreRules := []

namespace IgnoreLevel

def rulesAt (d : Disk) (p : Path) : IgnoreRules :=
  match d.read p with
  | .ok bytes => .ofBytes bytes
  | .error _ => []

def firstLineAt? (d : Disk) (p : Path) : Option (List Char) := do
  let bytes ← (d.read p).toOption
  Text.decode? (← (IgnoreRules.byteLines [] bytes).head?)

/-- The directory of a copy that shares its repository, as a file in place of `.git` names it. -/
def copyDirectory? (d : Disk) (dotGit : Path) : Option Path := do
  let name ← List.isPrefixOf? "gitdir: ".toList (← firstLineAt? d dotGit)
  return ⟨String.ofList name⟩

def sharedDirectory? (d : Disk) (copy : Path) : Option Path := do
  let line ← firstLineAt? d (copy.join "commondir")
  let name := String.ofList line
  return if line.head? == some '.' then copy.join name else ⟨name⟩

def dotGit (location : Location) : Path := (Disk.pathOf location).join ".git"

def ownFile? (d : Disk) (location : Location) : Option Path := do
  let dotGit := dotGit location
  if d.isFile dotGit then
    let shared ← sharedDirectory? d (← copyDirectory? d dotGit)
    return shared.join "info/exclude"
  else return dotGit.join "info/exclude"

def read (d : Disk) (location : Location) : IgnoreLevel where
  base := location
  shared := rulesAt d ((Disk.pathOf location).join ".gitignore")
  own := (ownFile? d location).elim [] (rulesAt d)

def above (d : Disk) (location : Location) : List IgnoreLevel :=
  ((List.range location.length).map fun n => read d (location.take n)).reverse

def relative (level : IgnoreLevel) (location : Location) : OsText :=
  Path.separated (location.drop level.base.length)

end IgnoreLevel

/-- What the levels say of an entry. The nearest rules decide, and rules for the project go before
those for one copy. -/
def ignoreVerdict? (levels : List IgnoreLevel) (location : Location) (isDir : Bool) :
    Option Verdict :=
  (levels.findSome? fun l => l.shared.verdict? (l.relative location) isDir) <|>
    levels.findSome? fun l => l.own.verdict? (l.relative location) isDir

def isIgnored (levels : List IgnoreLevel) (location : Location) (isDir : Bool) : Bool :=
  ignoreVerdict? levels location isDir == some .ignored

structure WalkSettings where
  excludes : List Pattern := []
  respectGitignore : Bool := false

def WalkSettings.prunes (s : WalkSettings) (names : Location) (isDir : Bool) : Bool :=
  (isDir && names.getLast?.elim false fun name => isAlwaysExcluded name.shown) ||
    s.excludes.any (·.isMatch ("/".intercalate (names.map OsText.shown)))

inductive Found
  | dir (names : Location)
  | file (names : Location)
  deriving Repr, DecidableEq

namespace Found

def dirs (found : List Found) : List Location :=
  found.filterMap fun | dir names => some names | file _ => none

def files (found : List Found) : List Location :=
  found.filterMap fun | file names => some names | dir _ => none

end Found

def levelsBelow (s : WalkSettings) (d : Disk) (location : Location) (levels : List IgnoreLevel) :
    List IgnoreLevel :=
  if s.respectGitignore then IgnoreLevel.read d location :: levels else levels

mutual

def walkNode (s : WalkSettings) (d : Disk) (project : Location) (names : Location)
    (levels : List IgnoreLevel) : Node → List Found
  | .dir entries =>
    walkEntries s d project names (levelsBelow s d (project ++ names) levels) entries
  | _ => []

def walkEntries (s : WalkSettings) (d : Disk) (project : Location) (names : Location)
    (levels : List IgnoreLevel) : List (OsText × Node) → List Found
  | [] => []
  | (name, node) :: rest =>
    let here := names ++ [name]
    let found :=
      if isIgnored levels (project ++ here) node.isDir || s.prunes here node.isDir then []
      else
        match node with
        | .file _ | .locked => [.file here]
        | .link _ => []
        | .dir entries => .dir here :: walkNode s d project here levels (.dir entries)
    found ++ walkEntries s d project names levels rest

end

def compareNames (a b : Location) : Ordering := List.compareLex compare a b

/-- Each directory with its files: directories in the order of their names from the top down, and
the files of each by name. -/
def arrange (found : List Found) : List (Location × List OsText) :=
  let dirs := ([] :: Found.dirs found).mergeSort fun a b => (compareNames a b).isLE
  let files := (Found.files found).mergeSort fun a b => (compareNames a b).isLE
  dirs.map fun dir =>
    (dir, (files.filter fun f => f.dropLast == dir).filterMap List.getLast?)

def walkProject (s : WalkSettings) (d : Disk) (project : Location) (node : Node) :
    List (Location × List OsText) :=
  let levels := if s.respectGitignore then IgnoreLevel.above d project else []
  arrange (walkNode s d project [] levels node)

end MetaLint
