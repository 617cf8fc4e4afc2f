import MetaLint.Text.Utf8

/-!
# Standard streams and their capture

What is written to a stream waits in a buffer and is passed on to where the stream points, in order
and at any time. A capture points both streams to files of its own, and points them back when it is
finished or dropped; the buffers are emptied before a stream is pointed elsewhere. One capture is
active at a time.
-/

set_option autoImplicit false

namespace MetaLint

open Text (Bytes)

inductive StandardStream
  | out
  | err
  deriving Repr, DecidableEq, Inhabited

structure StreamWrite where
  stream : StandardStream
  bytes : Bytes
  deriving Repr, DecidableEq, Inhabited

/-- Where a stream points: out of the program, or to the file of a capture. -/
inductive Sink
  | outside
  | capture (number : Nat)
  deriving Repr, DecidableEq

structure Channel where
  sink : Sink := .outside
  saved : Option Sink := none
  pending : Bytes := []
  /-- Passed on, each byte with where it went. -/
  delivered : List (Sink × UInt8) := []
  deriving Repr, DecidableEq

namespace Channel

def write (c : Channel) (bytes : Bytes) : Channel := { c with pending := c.pending ++ bytes }

def drain (c : Channel) (n : Nat) : Channel :=
  { c with
    pending := c.pending.drop n
    delivered := c.delivered ++ (c.pending.take n).map fun b => (c.sink, b) }

def flush (c : Channel) : Channel := c.drain c.pending.length

def divert (c : Channel) (number : Nat) : Channel :=
  { c.flush with sink := .capture number, saved := some c.sink }

def restore (c : Channel) : Channel :=
  match c.saved with
  | some sink => { c.flush with sink, saved := none }
  | none => c

def received (c : Channel) (sink : Sink) : Bytes :=
  (c.delivered.filter fun p => p.1 == sink).map Prod.snd

@[simp] theorem pending_flush (c : Channel) : c.flush.pending = [] := by
  simp [flush, drain]

end Channel

structure Captured where
  out : List Char
  err : List Char
  deriving Repr, DecidableEq

def Captured.isEmpty (c : Captured) : Bool := c.out.isEmpty && c.err.isEmpty

structure Streams where
  out : Channel := {}
  err : Channel := {}
  active : Option Nat := none
  started : Nat := 0
  deriving Repr, DecidableEq

namespace Streams

inductive Op
  | start
  | refuse
  | write (w : StreamWrite)
  | drain (stream : StandardStream) (n : Nat)
  | finish
  | drop
  deriving Repr, DecidableEq

def channel (s : Streams) : StandardStream → Channel
  | .out => s.out
  | .err => s.err

def update (s : Streams) (f : Channel → Channel) : StandardStream → Streams
  | .out => { s with out := f s.out }
  | .err => { s with err := f s.err }

def write (s : Streams) (w : StreamWrite) : Streams := s.update (·.write w.bytes) w.stream

def start (s : Streams) : Streams :=
  match s.active with
  | some _ => s
  | none =>
    { out := s.out.divert s.started, err := s.err.divert s.started, active := some s.started,
      started := s.started + 1 }

/-- A start that fails: the first stream, diverted already, is pointed back. -/
def refuse (s : Streams) : Streams :=
  match s.active with
  | some _ => s
  | none => { s with out := (s.out.divert s.started).restore, started := s.started + 1 }

def stop (s : Streams) : Streams :=
  match s.active with
  | some _ => { s with out := s.out.restore, err := s.err.restore, active := none }
  | none => s

def step (s : Streams) : Op → Streams
  | .start => s.start
  | .refuse => s.refuse
  | .write w => s.write w
  | .drain stream n => s.update (·.drain n) stream
  | .finish | .drop => s.stop

def run (s : Streams) (ops : List Op) : Streams := ops.foldl step s

def captured (s : Streams) (number : Nat) : Captured where
  out := Text.decodeLossy (s.out.received (.capture number))
  err := Text.decodeLossy (s.err.received (.capture number))

def capture (writes : List StreamWrite) : Captured :=
  let s : Streams := start {}
  ((writes.foldl write s).stop).captured 0

@[simp] theorem run_nil (s : Streams) : s.run [] = s := rfl

end Streams

end MetaLint
