import MetaLint.Disk.Node
import MetaLint.Path

/-!
# Reading and writing by path

A disk is a directory tree with a working directory. A path is followed step by step: every step but
the last must reach a directory, and symbolic links are followed up to a bound. What can go wrong
has the names and texts that the operating system gives it.
-/

set_option autoImplicit false

namespace MetaLint

open Text (Bytes)

structure Disk where
  root : Node := .dir []
  cwd : Location := []
  deriving Inhabited

namespace Disk

inductive Fault
  | notFound
  | notADirectory
  | isADirectory
  | tooManyLinks
  | nameTooLong
  | nulInName
  | denied
  | notText
  | other (text : String)
  deriving Repr, DecidableEq

def Fault.message : Fault → String
  | .notFound => "No such file or directory (os error 2)"
  | .notADirectory => "Not a directory (os error 20)"
  | .isADirectory => "Is a directory (os error 21)"
  | .tooManyLinks => "Too many levels of symbolic links (os error 40)"
  | .nameTooLong => "File name too long (os error 36)"
  | .nulInName => "file name contained an unexpected NUL byte"
  | .denied => "Permission denied (os error 13)"
  | .notText => "stream did not contain valid UTF-8"
  | .other text => text

inductive Step
  | here
  | up
  | name (raw : OsText)
  deriving Repr, DecidableEq

def Step.ofPiece (piece : OsText) : Step :=
  if piece = ("" : OsText) || piece = ("." : OsText) then .here
  else if piece = (".." : OsText) then .up
  else .name piece

/-- The steps of a path; a separator at its end asks for a directory. -/
def steps (raw : OsText) : List Step := (Path.pieces raw).map Step.ofPiece

/-- Where a path leads: to a node, or to a free place in a directory. -/
inductive Place
  | node (location : Location)
  | free (location : Location)
  deriving Repr, DecidableEq

/-- How many links one path may lead through. -/
def linkBound : Nat := 40

def nameBound : Nat := 255

/-- A path that is read or written as a whole takes fewer bytes than this. -/
def pathBound : Nat := 4096

def follow (root : Node) (followLast : Bool) : Nat → Location → List Step → Except Fault Place
  | _, here, [] => .ok (.node here)
  | fuel, here, step :: rest =>
    match root.get? here with
    | some (.dir es) =>
      match step with
      | .here => follow root followLast fuel here rest
      | .up => follow root followLast fuel here.dropLast rest
      | .name n =>
        if nameBound < n.bytes.length then .error .nameTooLong
        else
          match es.lookup n with
          | none =>
            match rest with
            | [] => .ok (.free (here ++ [n]))
            | _ => .error .notFound
          | some (.link target) =>
            if rest.isEmpty && !followLast then .ok (.node (here ++ [n]))
            else
              match fuel with
              | 0 => .error .tooManyLinks
              | fuel + 1 =>
                follow root followLast fuel (if Path.startsAtRoot target then [] else here)
                  (steps target ++ rest)
          | some _ => follow root followLast fuel (here ++ [n]) rest
    | some _ => .error .notADirectory
    | none => .error .notFound
termination_by fuel _ todo => (fuel, todo.length)

def checkText (p : Path) : Except Fault Unit :=
  if p.raw.bytes.contains 0 then .error .nulInName
  else if p.raw.bytes.isEmpty then .error .notFound
  else .ok ()

def placeOf (d : Disk) (p : Path) (followLast : Bool) (todo : List Step) : Except Fault Place :=
  follow d.root followLast linkBound (if Path.startsAtRoot p.raw then [] else d.cwd) todo

def place (d : Disk) (p : Path) (followLast : Bool) : Except Fault Place := do
  checkText p
  if pathBound ≤ p.raw.bytes.length then .error .nameTooLong
  else d.placeOf p followLast (steps p.raw)

def Place.location? : Place → Except Fault Location
  | .node location => .ok location
  | .free _ => .error .notFound

def locate (d : Disk) (p : Path) : Except Fault Location := do (← d.place p true).location?

def pathOf (location : Location) : Path := ⟨("/" : OsText) ++ Path.separated location⟩

/-- The location of the node that `p` leads to when it is followed name by name, so that it may have
any length. -/
def trace (d : Disk) (p : Path) : Except Fault Location := do
  checkText p
  (← d.placeOf p true (steps p.raw)).location?

def canonical (d : Disk) (p : Path) : Except Fault Path := (d.trace p).map pathOf

def nodeAt? (d : Disk) (p : Path) : Option Node :=
  match d.locate p with
  | .ok location => d.root.get? location
  | .error _ => none

def isFile (d : Disk) (p : Path) : Bool := (d.nodeAt? p).elim false Node.isFile

def isDir (d : Disk) (p : Path) : Bool := (d.nodeAt? p).elim false Node.isDir

def read (d : Disk) (p : Path) : Except Fault Bytes := do
  let location ← d.locate p
  match d.root.get? location with
  | some (.file content) => .ok content
  | some .locked => .error .denied
  | some _ => .error .isADirectory
  | none => .error .notFound

def readText (d : Disk) (p : Path) : Except Fault String := do
  match Text.decode? (← d.read p) with
  | some text => .ok (String.ofList text)
  | none => .error .notText

def stepsAbove (p : Path) : List Step :=
  (steps ⟨(p.raw.bytes.reverse.dropWhile (· == Path.separator)).reverse⟩).dropLast

/-- Where a file is written. A separator at the end of the path asks for a directory, which is none:
only what lies above it is followed. -/
def writePlace (d : Disk) (p : Path) : Except Fault Place := do
  if p.endsOpen then
    checkText p
    if pathBound ≤ p.raw.bytes.length then .error .nameTooLong
    else
      let above ← (← d.placeOf p true (stepsAbove p)).location?
      match d.root.get? above with
      | some (.dir _) => .error .isADirectory
      | _ => .error .notADirectory
  else d.place p true

def write (d : Disk) (p : Path) (content : Bytes) : Except Fault Disk := do
  match ← d.writePlace p with
  | .free location => .ok { d with root := Node.put (.file content) location d.root }
  | .node location =>
    match d.root.get? location with
    | some (.file _) => .ok { d with root := Node.put (.file content) location d.root }
    | some .locked => .error .denied
    | _ => .error .isADirectory

def makeDir (d : Disk) (p : Path) : Except Fault Disk := do
  if d.isDir p then .ok d
  else
    match ← d.place p true with
    | .free location => .ok { d with root := Node.put (.dir []) location d.root }
    | .node _ => .error .notADirectory

def makeLink (d : Disk) (p : Path) (target : OsText) : Except Fault Disk := do
  match ← d.place p false with
  | .free location => .ok { d with root := Node.put (.link target) location d.root }
  | .node _ => .error .isADirectory

def removeFile (d : Disk) (p : Path) : Except Fault Disk := do
  match ← d.place p false with
  | .free _ => .error .notFound
  | .node location =>
    match d.root.get? location with
    | some (.dir _) => .error .isADirectory
    | some _ => .ok { d with root := d.root.remove location }
    | none => .error .notFound

def changedFiles (old new : Disk) (base : Location) : List (String × Bytes) :=
  let before := ((old.root.get? base).elim [] Node.files)
  let after := ((new.root.get? base).elim [] Node.files)
  let changed := after.filter fun f => before.lookup f.1 != some f.2
  (changed.map fun f => ((Path.separated f.1).shown, f.2)).mergeSort fun a b =>
    (compare a.1 b.1).isLE

end Disk

end MetaLint
