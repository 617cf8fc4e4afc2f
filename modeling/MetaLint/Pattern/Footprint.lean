import MetaLint.Pattern.Flaw
import MetaLint.Pattern.Normal
import Std.Data.HashMap

/-!
# How much room an expression takes

An expression is laid out as an automaton on bytes, once for reading forwards and once for reading
backwards. Each state takes 32 bytes, each way between states that lists byte ranges 8 more, and
each way out of a fork 4 more. A set of characters shares states between its spellings as far as a
table of fixed size remembers them.
-/

set_option autoImplicit false

namespace MetaLint.Pattern

open Unicode (CharSet)

/-- The states laid out so far, and the bytes that they take beyond 32 each. -/
structure Footprint where
  states : Nat := 0
  extra : Nat := 0
  deriving Repr, DecidableEq, Inhabited

namespace Footprint

def size (f : Footprint) : Nat := 32 * f.states + f.extra

def add (f g : Footprint) : Footprint := ⟨f.states + g.states, f.extra + g.extra⟩

structure Way where
  first : Nat
  last : Nat
  target : Nat
  deriving BEq

def hashOf (numbers : List Nat) : UInt64 :=
  numbers.foldl (fun h n => (h ^^^ n.toUInt64) * 1099511628211) 14695981039346656037

structure OpenState where
  ways : List Way := []
  last : Option ByteRange := none

def OpenState.close (s : OpenState) (target : Nat) : OpenState :=
  match s.last with
  | none => s
  | some (a, b) => ⟨⟨a, b, target⟩ :: s.ways, none⟩

/-- A layout of a set in progress: the number of the next state, what was added, the finished states
by slot, and the open ones, the deepest first. -/
structure SetDraft where
  next : Nat
  added : Footprint := {}
  finished : Std.HashMap Nat (List Way × Nat) := {}
  stack : List OpenState

def forwardSlots : Nat := 10000

/-- The number of a state with these ways: an old one that its slot still remembers, or a new
one. -/
def SetDraft.finish (d : SetDraft) (ways : List Way) : Nat × SetDraft :=
  let key := hashOf (ways.flatMap fun w => [w.first, w.last, w.target])
  let slot := (key % forwardSlots.toUInt64).toNat
  let fresh : Nat × SetDraft :=
    (d.next, { d with next := d.next + 1, added := d.added.add ⟨1, 8 * ways.length⟩,
                      finished := d.finished.insert slot (ways, d.next) })
  match d.finished[slot]? with
  | some (known, number) => if known == ways then (number, d) else fresh
  | none => fresh

def closeDown (keep : Nat) : List OpenState → Nat → SetDraft → SetDraft
  | [], _, d => { d with stack := [] }
  | s :: rest, target, d =>
    if rest.length ≤ keep then { d with stack := s.close target :: rest }
    else
      let (number, d) := d.finish (s.close target).ways.reverse
      closeDown keep rest number d

def sharedDepth : List ByteRange → List OpenState → Nat
  | r :: ranges, s :: states => if s.last == some r then sharedDepth ranges states + 1 else 0
  | _, _ => 0

def openRest (spelling : List ByteRange) (stack : List OpenState) : List OpenState :=
  match spelling, stack with
  | r :: ranges, s :: rest =>
    ranges.foldl (fun stack r => ⟨[], some r⟩ :: stack) ({ s with last := some r } :: rest)
  | _, stack => stack

def SetDraft.addSpelling (target : Nat) (d : SetDraft) (spelling : List ByteRange) : SetDraft :=
  let depth := sharedDepth spelling d.stack.reverse
  let d := closeDown depth d.stack target d
  { d with stack := openRest (spelling.drop depth) d.stack }

def setForwards (next : Nat) (s : CharSet) : Footprint :=
  let start : SetDraft := { next := next + 1, added := ⟨1, 0⟩, stack := [{}] }
  let d := (spellings s).foldl (SetDraft.addSpelling next) start
  let d := closeDown 0 d.stack next d
  let ways := (d.stack.head?.elim [] OpenState.ways).reverse
  (d.finish ways).2.added

def backwardSlots : Nat := 1000

/-- The layout of the spellings of a set in progress: each slot holds the way that was laid out last
for it and the number of the state the way starts from. -/
structure EndsDraft where
  next : Nat
  added : Footprint
  finished : Std.HashMap Nat (Way × Nat) := {}

def EndsDraft.step (d : EndsDraft × Nat) (r : ByteRange) : EndsDraft × Nat :=
  let (d, target) := d
  let slot := (hashOf [target, r.1, r.2] % backwardSlots.toUInt64).toNat
  let fresh : EndsDraft × Nat :=
    ({ next := d.next + 1, added := d.added.add ⟨1, 0⟩,
       finished := d.finished.insert slot (⟨r.1, r.2, target⟩, d.next) }, d.next)
  match d.finished[slot]? with
  | some (way, number) => if way == ⟨r.1, r.2, target⟩ then (d, number) else fresh
  | none => fresh

def EndsDraft.addSpelling (target : Nat) (d : EndsDraft) (spelling : List ByteRange) : EndsDraft :=
  let (d, _) := spelling.foldl EndsDraft.step (d, target)
  { d with added := d.added.add ⟨0, 4⟩ }

def setBackwards (next : Nat) (s : CharSet) : Footprint :=
  let start : EndsDraft := { next := next + 2, added := ⟨2, 0⟩ }
  ((spellings s).foldl (EndsDraft.addSpelling (next + 1)) start).added

def ofSet (backwards : Bool) (next : Nat) (s : CharSet) : Footprint :=
  if s.isAscii then ⟨2, 8 * s.length⟩
  else if backwards then setBackwards next s else setForwards next s

def runs : List (List Nat) → List (List (List Nat))
  | [] => [[]]
  | [] :: rest => [] :: runs rest
  | w :: rest =>
    match runs rest with
    | run :: more => (w :: run) :: more
    | [] => [[w]]

def tailsOf (b : Nat) (words : List (List Nat)) : List (List Nat) :=
  words.filterMap fun
    | [] => none
    | c :: rest => if c = b then some rest else none

/-- What a tree of words takes; `depth` bounds the length of the words. A node has a fork, and a
state for each run of words that lead on from it. -/
def ofTree : Nat → List (List Nat) → Footprint
  | 0, _ => {}
  | depth + 1, words =>
    if words.all List.isEmpty then {}
    else
      let words := if words.head? == some [] then [] :: words.dropWhile List.isEmpty else words
      let runs := runs words
      let heads := runs.map fun run => (run.filterMap List.head?).eraseDups
      let taken := heads.filter fun bytes => !bytes.isEmpty
      let ways := (taken.filter fun bytes => 1 < bytes.length).flatten.length
      let node : Footprint := ⟨taken.length + 1, 8 * ways + 4 * (taken.length + (runs.length - 1))⟩
      let below := (runs.zip heads).flatMap fun (run, bytes) =>
        bytes.map fun b => ofTree depth (tailsOf b run)
      below.foldl add node

def ofWords (words : List (List Nat)) : Footprint :=
  (ofTree ((words.map List.length).foldl max 0) words).add ⟨1, 0⟩

end Footprint

abbrev Laying (α : Type) := StateT Footprint Option α

/-- What the last state of a part is. A fork takes more for each way out that it is given. -/
inductive Exit
  | plain
  | fork
  deriving DecidableEq

namespace Laying

def lay (added : Footprint) : Laying Unit := fun f =>
  let f := f.add added
  if f.size ≤ sizeBound then some ((), f) else none

def state : Laying Unit := lay ⟨1, 0⟩

def link (e : Exit) : Laying Unit := lay ⟨0, if e = .fork then 4 else 0⟩

def further (part : Laying Exit) : Nat → Exit → Laying Exit
  | 0, e => return e
  | n + 1, e => do
    let last ← part
    link e
    further part n last

def exactly (part : Laying Exit) : Nat → Laying Exit
  | 0 => do
    state
    return .plain
  | n + 1 => do
    let e ← part
    further part n e

def upTo (part : Laying Exit) : Nat → Exit → Laying Exit
  | 0, e => return e
  | n + 1, e => do
    state
    let last ← part
    link e
    link .fork
    link .fork
    upTo part n last

def bounded (part : Laying Exit) (least most : Nat) : Laying Exit := do
  let e ← exactly part least
  state
  let e ← upTo part (most - least) e
  link e
  return .plain

def optional (part : Laying Exit) : Laying Exit := do
  state
  let e ← part
  state
  link .fork
  link .fork
  link e
  return .plain

def anyTimes (part : Laying Exit) (passes : Bool) : Laying Exit :=
  if passes then do
    state
    let e ← part
    link .fork
    link e
    return .fork
  else do
    let e ← part
    state
    link e
    link .fork
    state
    state
    link .fork
    link .fork
    link .fork
    return .plain

def atLeast (part : Laying Exit) (passes : Bool) : Nat → Laying Exit
  | 0 => anyTimes part passes
  | 1 => do
    let e ← part
    state
    link e
    link .fork
    return .fork
  | n + 2 => do
    let e ← exactly part (n + 1)
    let last ← part
    state
    link e
    link last
    link .fork
    return .fork

def times (part : Laying Exit) (passes : Bool) (least : Nat) (most : Option Nat) : Laying Exit :=
  match most with
  | none => atLeast part passes least
  | some most =>
    if least = 0 && most = 1 then optional part
    else if least = most then exactly part least
    else bounded part least most

end Laying

namespace Regex

open Laying

def least? : Option Nat → Option Nat → Option Nat
  | some m, some n => some (min m n)
  | _, _ => none

mutual

def shortest : Regex → Option Nat
  | empty => some 0
  | text cs => some cs.length
  | set s => if s.isEmpty then none else some 1
  | look _ => some 0
  | times r least _ _ => r.shortest.map (· * least)
  | captured r => r.shortest
  | seq rs => shortestSum rs
  | alt rs => shortestOf rs

def shortestSum : List Regex → Option Nat
  | [] => some 0
  | r :: rest =>
    match r.shortest, shortestSum rest with
    | some m, some n => some (m + n)
    | _, _ => none

def shortestOf : List Regex → Option Nat
  | [] => none
  | [r] => r.shortest
  | r :: rest => least? r.shortest (shortestOf rest)

end

def textBytes (cs : List Char) : List Nat := cs.flatMap fun c => codeBytes c.toNat

def words? (backwards : Bool) (rs : List Regex) : Option (List (List Nat)) :=
  rs.mapM fun
    | text cs => some (if backwards then (textBytes cs).reverse else textBytes cs)
    | _ => none

mutual

def layOut (backwards : Bool) : Regex → Laying Exit
  | empty => do
    state
    return .plain
  | text cs => do
    lay ⟨(textBytes cs).length, 0⟩
    return .plain
  | set s => do
    lay (Footprint.ofSet backwards (← get).states s)
    return .plain
  | look _ => do
    state
    return .plain
  | times r least most _ =>
    Laying.times (layOut backwards r) (r.shortest.any (0 < ·)) least most
  | captured r =>
    if backwards then layOut backwards r
    else do
      state
      let e ← layOut backwards r
      state
      link e
      return .plain
  | seq rs =>
    if backwards then do
      let e ← layBackwards backwards rs
      return e.getD .plain
    else layForwards backwards none rs
  | alt rs =>
    match words? backwards rs with
    | some words => do
      lay (Footprint.ofWords words)
      return .plain
    | none => do
      layOptions backwards 0 rs
      return .plain

def layForwards (backwards : Bool) (before : Option Exit) : List Regex → Laying Exit
  | [] => return before.getD .plain
  | r :: rest => do
    let e ← layOut backwards r
    match before with
    | some b => link b
    | none => pure ()
    layForwards backwards (some e) rest

def layBackwards (backwards : Bool) : List Regex → Laying (Option Exit)
  | [] => return none
  | r :: rest => do
    let before ← layBackwards backwards rest
    let e ← layOut backwards r
    match before with
    | some b => link b
    | none => pure ()
    return some e

/-- Lays out the options of a choice from the one with this index on. The fork before them and the
state behind them come after the second one. -/
def layOptions (backwards : Bool) (index : Nat) : List Regex → Laying Unit
  | [] => return ()
  | r :: rest => do
    let e ← layOut backwards r
    if index = 1 then lay ⟨2, 0⟩
    link .fork
    link e
    layOptions backwards (index + 1) rest

end

mutual

def startsWith (l : Look) : Regex → Bool
  | look m => m == l
  | times r least _ _ => 0 < least && r.startsWith l
  | captured r => r.startsWith l
  | seq rs => anyStartsWith l rs
  | alt rs => allStartWith l rs
  | _ => false

def anyStartsWith (l : Look) : List Regex → Bool
  | [] => false
  | r :: rest => r.startsWith l || (r.onlyEmpty && anyStartsWith l rest)

def allStartWith (l : Look) : List Regex → Bool
  | [] => true
  | r :: rest => r.startsWith l && allStartWith l rest

end

mutual

def endsWith (l : Look) : Regex → Bool
  | look m => m == l
  | times r least _ _ => 0 < least && r.endsWith l
  | captured r => r.endsWith l
  | seq rs => anyEndsWith l rs
  | alt rs => allEndWith l rs
  | _ => false

def anyEndsWith (l : Look) : List Regex → Bool
  | [] => false
  | r :: rest => (allOnlyEmpty rest && r.endsWith l) || anyEndsWith l rest

def allEndWith (l : Look) : List Regex → Bool
  | [] => true
  | r :: rest => r.endsWith l && allEndWith l rest

end

/-- Lays out an expression with what stands around it: a loop over what comes before a match unless
it is bound to one place, the ends of the match, and a final state. -/
def layWhole (backwards : Bool) (r : Regex) : Laying Unit := do
  let bound := if backwards then r.endsWith .textEnd else r.startsWith .textStart
  if bound then state
  else
    lay ⟨3, 8⟩
    link .fork
  let e ← layOut backwards (if backwards then r else .captured r)
  state
  link e
  link (if bound then .plain else .fork)

def fits (r : Regex) : Bool :=
  let r := r.normal
  (layWhole false r {}).isSome && (layWhole true r {}).isSome

end Regex

end MetaLint.Pattern
