import MetaLint.Finder

/-!
# A finder with many readers

Readers ask a finder for files at any time, while files change on the disk. A reader looks into what
the finder has, reads the file if it is not there, and leaves what it read with the finder. Steps of
different readers may come in any order.
-/

set_option autoImplicit false

namespace MetaLint

/-- How far the reader of a file is. -/
inductive FileReading
  | asked (p : Path)
  | lacking (p : Path)
  | loaded (p : Path) (text : List Char)
  | answered (p : Path) (result : Except Disk.Fault (List Char))

namespace FileReading

def path : FileReading → Path
  | .asked p | .lacking p | .loaded p _ | .answered p _ => p

def text? : FileReading → Option (List Char)
  | .answered _ (.ok text) => some text
  | _ => none

def step (f : Finder) (d : Disk) : FileReading → FileReading × Finder
  | .asked p =>
    match f.cached? p with
    | some text => (.answered p (.ok text), f)
    | none => (.lacking p, f)
  | .lacking p =>
    match d.read p with
    | .ok bytes => (.loaded p (Text.decodeLossy bytes), f)
    | .error fault => (.answered p (.error fault), f)
  | .loaded p text => (.answered p (.ok text), f.keep p text)
  | .answered p result => (.answered p result, f)

end FileReading

structure SharedFinder where
  finder : Finder
  disk : Disk
  readers : List FileReading := []

namespace SharedFinder

inductive Move
  | ask (p : Path)
  | advance (reader : Nat)
  | change (disk : Disk)

def advance (s : SharedFinder) (r : Nat) : SharedFinder :=
  match s.readers[r]? with
  | some reading =>
    let (reading, finder) := reading.step s.finder s.disk
    { s with finder, readers := s.readers.set r reading }
  | none => s

def step (s : SharedFinder) : Move → SharedFinder
  | .ask p => { s with readers := s.readers ++ [.asked p] }
  | .advance r => s.advance r
  | .change disk => { s with disk }

def perform (s : SharedFinder) (moves : List Move) : SharedFinder := moves.foldl step s

def text? (s : SharedFinder) (r : Nat) : Option (List Char) :=
  (s.readers[r]?).bind FileReading.text?

theorem perform_append (s : SharedFinder) (m n : List Move) :
    s.perform (m ++ n) = (s.perform m).perform n := by
  simp [perform]

end SharedFinder

end MetaLint
