import MetaLint.Collector

/-!
# A collector with many readers

Readers ask for the cleaned view at any time, while issues come in and files change on the disk. A
reader takes a snapshot, goes through its issues one by one, and stores what it found. For the
directives of a file it looks into the cache, reads the file if nothing is there, and goes by what
the cache has in the end. Steps of different readers may come in any order.
-/

set_option autoImplicit false

namespace MetaLint

/-- How far a reader is. Issues that stay are held with the last one first. -/
inductive Reading
  | asked
  | sifting (shot : Collector.Snapshot) (kept todo : List Issue)
  | lacking (shot : Collector.Snapshot) (kept : List Issue) (current : Issue) (todo : List Issue)
  | loaded (shot : Collector.Snapshot) (kept : List Issue) (current : Issue) (todo : List Issue)
      (index : SuppressionIndex)
  | cleaned (shot : Collector.Snapshot) (view : List Issue)
  | answered (view : List Issue)

namespace Reading

def answer? : Reading → Option (List Issue)
  | .answered view => some view
  | _ => none

def sift (kept : List Issue) (i : Issue) (index : SuppressionIndex) : List Issue :=
  if index.suppresses i then kept else i :: kept

def siftNext (c : Collector) (shot : Collector.Snapshot) (kept : List Issue) (i : Issue)
    (rest : List Issue) : Reading :=
  if c.settings.disables i then .sifting shot kept rest
  else if !c.settings.noqa then .sifting shot (i :: kept) rest
  else
    match c.directives.find? i.filename with
    | some index => .sifting shot (sift kept i index) rest
    | none => .lacking shot kept i rest

def step (c : Collector) (d : Disk) : Reading → Reading × Collector
  | .asked =>
    match c.cleaned with
    | some view => (.answered view, c)
    | none => (.sifting c.snapshot [] c.raw, c)
  | .sifting shot kept [] => (.cleaned shot (c.settings.merged kept.reverse), c)
  | .sifting shot kept (i :: rest) => (siftNext c shot kept i rest, c)
  | .lacking shot kept i rest =>
    (.loaded shot kept i rest (Collector.loadIndex c.settings d i.filename), c)
  | .loaded shot kept i rest index =>
    let c := { c with directives := c.directives.insertNew i.filename index }
    (.sifting shot (sift kept i (c.directives.get i.filename)) rest, c)
  | .cleaned shot view => (.answered view, c.store shot.generation view)
  | .answered view => (.answered view, c)

end Reading

structure SharedCollector where
  collector : Collector
  disk : Disk
  readers : List Reading := []

namespace SharedCollector

inductive Move
  | add (issues : List Issue)
  | ask
  | advance (reader : Nat)
  | change (disk : Disk)

def advance (s : SharedCollector) (r : Nat) : SharedCollector :=
  match s.readers[r]? with
  | some reading =>
    let (reading, collector) := reading.step s.collector s.disk
    { s with collector, readers := s.readers.set r reading }
  | none => s

def step (s : SharedCollector) : Move → SharedCollector
  | .add issues => { s with collector := s.collector.add issues }
  | .ask => { s with readers := s.readers ++ [.asked] }
  | .advance r => s.advance r
  | .change disk => { s with disk }

def perform (s : SharedCollector) (moves : List Move) : SharedCollector := moves.foldl step s

def answer? (s : SharedCollector) (r : Nat) : Option (List Issue) :=
  (s.readers[r]?).bind Reading.answer?

@[simp] theorem perform_nil (s : SharedCollector) : s.perform [] = s := rfl

theorem perform_append (s : SharedCollector) (m n : List Move) :
    s.perform (m ++ n) = (s.perform m).perform n := by
  simp [perform]

end SharedCollector

end MetaLint
