import Mathlib.Data.List.Basic
import MetaLint.Finder.Shared
import MetaLint.Tool.Basic

/-!
# Files that are read in turns

While the files stay as they are, what a reader is told of one file does not depend on which others
were read before. The readers of a scan may therefore take their steps in any order: when all of
them have come to an end, each was told what it would have been told alone.
-/

set_option autoImplicit false

namespace MetaLint

def Disk.load (d : Disk) (p : Path) : Except Disk.Fault (List Char) :=
  (d.read p).map Text.decodeLossy

/-- No two of the paths are spelled alike. -/
def Path.Apart (ps : List Path) : Prop := ∀ p ∈ ps, ∀ q ∈ ps, p.same q = true → p = q

namespace Finder

variable {f : Finder} {d : Disk} {p q : Path} {text : List Char} {ps : List Path}

/-- What a reader of a file is told. -/
def told (f : Finder) (d : Disk) (p : Path) : Except Disk.Fault (List Char) := (f.read d p).1

theorem told_of_cached (h : f.cached? p = some text) : f.told d p = .ok text := by
  rw [told, read, h]

theorem told_of_lacking (h : f.cached? p = none) : f.told d p = d.load p := by
  rw [told, read, h, Disk.load]
  cases d.read p <;> rfl

theorem cached?_keep : (f.keep q text).cached? p = if p.same q then some text else f.cached? p := by
  rw [cached?, keep, List.find?_cons]
  cases p.same q <;> rfl

theorem told_keep (ha : Path.Apart ps) (hp : p ∈ ps) (hq : q ∈ ps) (h : f.told d q = .ok text) :
    (f.keep q text).told d p = f.told d p := by
  cases hsame : p.same q with
  | true =>
    obtain rfl := ha p hp q hq hsame
    rw [h]
    exact told_of_cached (by rw [cached?_keep, hsame]; rfl)
  | false =>
    have hc : (f.keep q text).cached? p = f.cached? p := by
      rw [cached?_keep, hsame]
      rfl
    cases hf : f.cached? p with
    | some own => rw [told_of_cached hf, told_of_cached (hc.trans hf)]
    | none => rw [told_of_lacking hf, told_of_lacking (hc.trans hf)]

theorem told_read (ha : Path.Apart ps) (hp : p ∈ ps) (hq : q ∈ ps) :
    (f.read d q).2.told d p = f.told d p := by
  cases hc : f.cached? q with
  | some text =>
    have hf : (f.read d q).2 = f := by rw [read, hc]
    rw [hf]
  | none =>
    cases hr : d.read q with
    | error fault =>
      have hf : (f.read d q).2 = f := by rw [read, hc, hr]
      rw [hf]
    | ok bytes =>
      have hf : (f.read d q).2 = f.keep q (Text.decodeLossy bytes) := by rw [read, hc, hr]
      rw [hf]
      apply told_keep ha hp hq
      rw [told, read, hc, hr]

theorem readAll_eq (ha : Path.Apart ps) {files : List Path} (h : ∀ p ∈ files, p ∈ ps) :
    (Tool.readAll f d files).1 = files.map fun p => (p, f.told d p) := by
  induction files generalizing f with
  | nil => rfl
  | cons q files ih =>
    obtain ⟨hq, hfiles⟩ := List.forall_mem_cons.mp h
    rw [Tool.readAll, List.map_cons]
    have hrest : (Tool.readAll (f.read d q).2 d files).1 = files.map fun p => (p, f.told d p) := by
      rw [ih hfiles]
      apply List.map_congr_left
      intro p hp
      rw [told_read ha (hfiles p hp) hq]
    exact congrArg _ hrest

end Finder

namespace FileReading

def outcome? : FileReading → Option (Path × Except Disk.Fault (List Char))
  | .answered p result => some (p, result)
  | _ => none

def left : FileReading → Nat
  | .asked _ => 3
  | .lacking _ => 2
  | .loaded _ _ => 1
  | .answered _ _ => 0

variable {told : Path → Except Disk.Fault (List Char)} {ps : List Path} {f : Finder} {d : Disk}

def Sound (told : Path → Except Disk.Fault (List Char)) (d : Disk) : FileReading → Prop
  | .asked _ => True
  | .lacking p => told p = d.load p
  | .loaded p text => told p = .ok text
  | .answered p result => told p = result

theorem left_step (reading : FileReading) : (reading.step f d).1.left ≤ reading.left - 1 := by
  cases reading with
  | asked p =>
    rw [step]
    split <;> simp [left]
  | lacking p =>
    rw [step]
    split <;> simp [left]
  | loaded p text => exact Nat.le_refl 0
  | answered p result => exact Nat.le_refl 0

theorem outcome?_of_left {reading : FileReading} (h : reading.left = 0) :
    reading.outcome?.isSome = true := by
  cases reading <;> first | contradiction | rfl

theorem path_step (reading : FileReading) : (reading.step f d).1.path = reading.path := by
  cases reading with
  | asked p =>
    rw [step]
    split <;> rfl
  | lacking p =>
    rw [step]
    split <;> rfl
  | loaded p text => rfl
  | answered p result => rfl

/-- A reader finds out what is told, and leaves the finder telling the same. -/
theorem sound_step (ha : Path.Apart ps) (hf : ∀ p ∈ ps, f.told d p = told p)
    {reading : FileReading} (hp : reading.path ∈ ps) (h : reading.Sound told d) :
    (reading.step f d).1.Sound told d ∧ ∀ p ∈ ps, (reading.step f d).2.told d p = told p := by
  cases reading with
  | asked p =>
    rw [step]
    cases hc : f.cached? p with
    | some text => exact ⟨(hf p hp).symm.trans (Finder.told_of_cached hc), hf⟩
    | none => exact ⟨(hf p hp).symm.trans (Finder.told_of_lacking hc), hf⟩
  | lacking p =>
    have hload : told p = d.load p := h
    rw [step]
    cases hr : d.read p with
    | ok bytes =>
      rw [Disk.load, hr] at hload
      exact ⟨hload, hf⟩
    | error fault =>
      rw [Disk.load, hr] at hload
      exact ⟨hload, hf⟩
  | loaded p text =>
    have htext : told p = .ok text := h
    refine ⟨htext, fun q hq => ?_⟩
    exact (Finder.told_keep ha hq hp ((hf p hp).trans htext)).trans (hf q hq)
  | answered p result => exact ⟨h, hf⟩

end FileReading

namespace SharedFinder

def scanning (f : Finder) (d : Disk) (files : List Path) : SharedFinder where
  finder := f
  disk := d
  readers := files.map .asked

/-- The readers take steps in turns. -/
def takeTurns (s : SharedFinder) (turns : List Nat) : SharedFinder := s.perform (turns.map .advance)

def Finished (s : SharedFinder) : Prop := ∀ r ∈ s.readers, r.outcome?.isSome = true

def outcomes (s : SharedFinder) : List (Path × Except Disk.Fault (List Char)) :=
  s.readers.filterMap FileReading.outcome?

variable {told : Path → Except Disk.Fault (List Char)} {ps : List Path} {s : SharedFinder}

structure Steady (told : Path → Except Disk.Fault (List Char)) (ps : List Path)
    (s : SharedFinder) : Prop where
  finder : ∀ p ∈ ps, s.finder.told s.disk p = told p
  paths : ∀ r ∈ s.readers, r.path ∈ ps
  readers : ∀ r ∈ s.readers, r.Sound told s.disk

theorem takeTurns_cons (s : SharedFinder) (r : Nat) (turns : List Nat) :
    s.takeTurns (r :: turns) = (s.advance r).takeTurns turns := rfl

theorem steady_advance (ha : Path.Apart ps) (h : Steady told ps s) (r : Nat) :
    Steady told ps (s.advance r) := by
  rw [advance]
  split
  next reading hget =>
    have hmem := List.mem_of_getElem? hget
    have hp := h.paths reading hmem
    obtain ⟨hsound, hfinder⟩ := FileReading.sound_step ha h.finder hp (h.readers reading hmem)
    refine ⟨hfinder, fun other hother => ?_, fun other hother => ?_⟩
    · rcases List.mem_or_eq_of_mem_set hother with hother | rfl
      · exact h.paths other hother
      · rwa [FileReading.path_step]
    · rcases List.mem_or_eq_of_mem_set hother with hother | rfl
      · exact h.readers other hother
      · exact hsound
  next => exact h

theorem steady_takeTurns (ha : Path.Apart ps) (h : Steady told ps s) (turns : List Nat) :
    Steady told ps (s.takeTurns turns) := by
  induction turns generalizing s with
  | nil => exact h
  | cons r turns ih => exact ih (steady_advance ha h r)

theorem getElem?_readers_advance (s : SharedFinder) (r i : Nat) :
    (s.advance r).readers[i]? = if r = i
      then s.readers[i]?.map fun reading => (reading.step s.finder s.disk).1
      else s.readers[i]? := by
  rw [advance]
  split
  next reading hget =>
    rw [List.getElem?_set]
    split
    next hi =>
      subst hi
      obtain ⟨hr, -⟩ := List.getElem?_eq_some_iff.mp hget
      rw [if_pos hr, hget]
      rfl
    next => rfl
  next hnone =>
    split
    next hi =>
      subst hi
      rw [hnone]
      rfl
    next => rfl

theorem paths_advance (s : SharedFinder) (r : Nat) :
    (s.advance r).readers.map FileReading.path = s.readers.map FileReading.path := by
  apply List.ext_getElem?
  intro i
  rw [List.getElem?_map, List.getElem?_map, getElem?_readers_advance]
  split
  next => cases s.readers[i]? <;> simp [FileReading.path_step]
  next => rfl

theorem paths_takeTurns (s : SharedFinder) (turns : List Nat) :
    (s.takeTurns turns).readers.map FileReading.path = s.readers.map FileReading.path := by
  induction turns generalizing s with
  | nil => rfl
  | cons r turns ih => rw [takeTurns_cons, ih, paths_advance]

/-- Finished readers were told what there was to be told, whoever came first. -/
theorem outcomes_of_finished (h : Steady told ps s) (hdone : s.Finished) :
    s.outcomes = (s.readers.map FileReading.path).map fun p => (p, told p) := by
  rw [outcomes, List.map_map, ← List.filterMap_eq_map]
  apply List.filterMap_congr
  intro r hr
  have hsome := hdone r hr
  have hsound := h.readers r hr
  cases r with
  | asked p => contradiction
  | lacking p => contradiction
  | loaded p text => contradiction
  | answered p result =>
    have htold : told p = result := hsound
    simp [FileReading.outcome?, FileReading.path, htold]

theorem outcomes_scanning {f : Finder} {d : Disk} {files : List Path} (ha : Path.Apart ps)
    (h : ∀ p ∈ files, p ∈ ps) (turns : List Nat)
    (hdone : ((scanning f d files).takeTurns turns).Finished) :
    ((scanning f d files).takeTurns turns).outcomes = files.map fun p => (p, f.told d p) := by
  have hstart : Steady (f.told d) ps (scanning f d files) := by
    refine ⟨fun _ _ => rfl, fun r hr => ?_, fun r hr => ?_⟩
    · obtain ⟨p, hp, rfl⟩ := List.mem_map.mp hr
      exact h p hp
    · obtain ⟨p, hp, rfl⟩ := List.mem_map.mp hr
      exact trivial
  have hpaths : (scanning f d files).readers.map FileReading.path = files := by
    rw [scanning, List.map_map]
    exact List.map_id files
  rw [outcomes_of_finished (steady_takeTurns ha hstart turns) hdone, paths_takeTurns, hpaths]

theorem left_takeTurns (s : SharedFinder) (turns : List Nat) {i : Nat} {reading : FileReading}
    (h : (s.takeTurns turns).readers[i]? = some reading) :
    ∃ first, s.readers[i]? = some first ∧ reading.left ≤ first.left - turns.count i := by
  induction turns generalizing s with
  | nil => exact ⟨reading, h, Nat.le_refl _⟩
  | cons r turns ih =>
    obtain ⟨next, hnext, hleft⟩ := ih (s.advance r) h
    rw [getElem?_readers_advance] at hnext
    split at hnext
    next hr =>
      subst hr
      obtain ⟨first, hfirst, rfl⟩ := Option.map_eq_some_iff.mp hnext
      refine ⟨first, hfirst, ?_⟩
      have hstep := first.left_step (f := s.finder) (d := s.disk)
      rw [List.count_cons_self]
      omega
    next hr => exact ⟨next, hnext, by rwa [List.count_cons_of_ne hr]⟩

/-- A scan is finished when every reader had three turns. -/
theorem finished_scanning {f : Finder} {d : Disk} {files : List Path} {turns : List Nat}
    (h : ∀ i < files.length, 3 ≤ turns.count i) :
    ((scanning f d files).takeTurns turns).Finished := by
  intro reading hr
  obtain ⟨i, hi⟩ := List.mem_iff_getElem?.mp hr
  obtain ⟨first, hfirst, hleft⟩ := left_takeTurns _ turns hi
  rw [scanning, List.getElem?_map] at hfirst
  obtain ⟨p, hp, rfl⟩ := Option.map_eq_some_iff.mp hfirst
  have hthree := h i (List.getElem?_eq_some_iff.mp hp).1
  have hstart : (FileReading.asked p).left = 3 := rfl
  exact FileReading.outcome?_of_left (by omega)

end SharedFinder

end MetaLint
