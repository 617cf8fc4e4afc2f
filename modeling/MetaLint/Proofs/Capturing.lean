import MetaLint.Streams

/-!
# Captured streams

Whatever is written to a stream arrives once, in the order in which it was written, where it
belongs: at the capture that was active when it was written, or outside if there was none. It does
not matter when the stream passes it on, as nothing waits any more when a stream is pointed
elsewhere. After the end of a capture both streams point outside again.
-/

set_option autoImplicit false

namespace MetaLint

open Text (Bytes)

namespace Channel

/-- The channel points where `holder` says, its way back leads outside, and what was passed on and
what waits make up what was ever written. -/
structure Keeps (holder : Sink) (written : List (Sink × UInt8)) (c : Channel) : Prop where
  bytes : c.delivered ++ c.pending.map (fun b => (c.sink, b)) = written
  sink : c.sink = holder
  saved : c.saved = if holder = .outside then none else some .outside

variable {holder : Sink} {written : List (Sink × UInt8)} {c : Channel}

theorem Keeps.write (h : Keeps holder written c) (bytes : Bytes) :
    Keeps holder (written ++ bytes.map fun b => (holder, b)) (c.write bytes) where
  bytes := by simp [Channel.write, ← h.bytes, ← h.sink]
  sink := h.sink
  saved := h.saved

theorem Keeps.drain (h : Keeps holder written c) (n : Nat) : Keeps holder written (c.drain n) where
  bytes := by
    rw [← h.bytes, Channel.drain, List.append_assoc, ← List.map_append, List.take_append_drop]
  sink := h.sink
  saved := h.saved

theorem Keeps.delivered_flush (h : Keeps holder written c) : c.flush.delivered = written := by
  have hflush := (h.drain c.pending.length).bytes
  rw [← flush, pending_flush, List.map_nil, List.append_nil] at hflush
  exact hflush

theorem Keeps.divert (h : Keeps .outside written c) (number : Nat) :
    Keeps (.capture number) written (c.divert number) ∧ (c.divert number).pending = [] := by
  refine ⟨⟨?_, rfl, ?_⟩, pending_flush c⟩
  · simp [Channel.divert, h.delivered_flush]
  · simp [Channel.divert, h.sink]

theorem Keeps.restore {number : Nat} (h : Keeps (.capture number) written c) :
    Keeps .outside written c.restore ∧ c.restore.pending = [] := by
  have hsaved : c.saved = some .outside := h.saved
  have hrestore : c.restore = { c.flush with sink := .outside, saved := none } := by
    rw [Channel.restore, hsaved]
  rw [hrestore]
  exact ⟨⟨by simp [h.delivered_flush], rfl, rfl⟩, pending_flush c⟩

theorem Keeps.received (h : Keeps holder written c) {sink : Sink} (hne : holder ≠ sink) :
    c.received sink = (written.filter fun p => p.1 == sink).map Prod.snd := by
  have hpending : (c.pending.map fun b => (c.sink, b)).filter (fun p => p.1 == sink) = [] := by
    simp [h.sink, hne]
  rw [Channel.received, ← h.bytes, List.filter_append, hpending, List.append_nil]

end Channel

namespace Streams

/-- Whose turn it is: where what is written belongs, and how many captures there were. -/
structure Turn where
  holder : Sink := .outside
  started : Nat := 0

/-- A start while a capture is active waits, and changes nothing. -/
def Turn.step (t : Turn) : Op → Turn
  | .start => if t.holder = .outside then ⟨.capture t.started, t.started + 1⟩ else t
  | .refuse => if t.holder = .outside then ⟨.outside, t.started + 1⟩ else t
  | .write _ | .drain _ _ => t
  | .finish | .drop => ⟨.outside, t.started⟩

def turn (ops : List Op) : Turn := ops.foldl Turn.step {}

def Op.bytes (stream : StandardStream) : Op → Bytes
  | .write w => if w.stream = stream then w.bytes else []
  | _ => []

/-- All that is written to a stream, each byte with where it belongs. -/
def written (stream : StandardStream) : Turn → List Op → List (Sink × UInt8)
  | _, [] => []
  | t, op :: ops =>
    (op.bytes stream).map (fun b => (t.holder, b)) ++ written stream (t.step op) ops

structure Keeps (t : Turn) (history : StandardStream → List (Sink × UInt8)) (s : Streams) :
    Prop where
  active : s.active.elim .outside .capture = t.holder
  started : s.started = t.started
  channels : ∀ stream, (s.channel stream).Keeps t.holder (history stream)

section Step
variable {t : Turn} {history : StandardStream → List (Sink × UInt8)} {s : Streams}

theorem channel_update (f : Channel → Channel) (stream other : StandardStream) :
    (s.update f stream).channel other =
      if stream = other then f (s.channel other) else s.channel other := by
  cases stream <;> cases other <;> rfl

theorem Keeps.active_cases (h : Keeps t history s) :
    (s.active = none ∧ t.holder = .outside) ∨
      ∃ n, s.active = some n ∧ t.holder = .capture n := by
  have ha := h.active
  cases hs : s.active with
  | none => exact .inl ⟨rfl, by rw [← ha, hs]; rfl⟩
  | some n => exact .inr ⟨n, rfl, by rw [← ha, hs]; rfl⟩

theorem Keeps.start (h : Keeps t history s) : Keeps (t.step .start) history s.start ∧
    (t.holder = .outside → ∀ stream, (s.start.channel stream).pending = []) := by
  rcases h.active_cases with ⟨hs, ht⟩ | ⟨n, hs, ht⟩
  · have hchannel : ∀ stream, (s.channel stream).Keeps .outside (history stream) :=
      fun stream => ht ▸ h.channels stream
    have hstart : s.start =
        { out := s.out.divert s.started, err := s.err.divert s.started, active := some s.started,
          started := s.started + 1 } := by
      rw [Streams.start, hs]
    have hstarted : ∀ stream, s.start.channel stream = (s.channel stream).divert s.started := by
      rw [hstart]
      intro stream
      cases stream <;> rfl
    rw [Turn.step, if_pos ht, ← h.started]
    refine ⟨⟨by rw [hstart]; rfl, by rw [hstart], fun stream => ?_⟩, fun _ stream => ?_⟩
    · rw [hstarted]
      exact ((hchannel stream).divert s.started).1
    · rw [hstarted]
      exact ((hchannel stream).divert s.started).2
  · have hstart : s.start = s := by rw [Streams.start, hs]
    have hne : t.holder ≠ .outside := by simp [ht]
    rw [hstart, Turn.step, if_neg hne]
    exact ⟨h, fun hout => absurd hout hne⟩

theorem Keeps.refuse (h : Keeps t history s) : Keeps (t.step .refuse) history s.refuse := by
  rcases h.active_cases with ⟨hs, ht⟩ | ⟨n, hs, ht⟩
  · have hchannel : ∀ stream, (s.channel stream).Keeps .outside (history stream) :=
      fun stream => ht ▸ h.channels stream
    have hrefuse : s.refuse =
        { s with out := (s.out.divert s.started).restore, started := s.started + 1 } := by
      rw [Streams.refuse, hs]
    rw [hrefuse, Turn.step, if_pos ht, ← h.started]
    refine ⟨by rw [hs]; rfl, rfl, fun stream => ?_⟩
    cases stream with
    | out => exact ((hchannel .out).divert s.started).1.restore.1
    | err => exact hchannel .err
  · have hrefuse : s.refuse = s := by rw [Streams.refuse, hs]
    rw [hrefuse, Turn.step, if_neg (by simp [ht])]
    exact h

theorem Keeps.stop (h : Keeps t history s) : Keeps ⟨.outside, t.started⟩ history s.stop ∧
    (t.holder ≠ .outside → ∀ stream, (s.stop.channel stream).pending = []) := by
  rcases h.active_cases with ⟨hs, ht⟩ | ⟨n, hs, ht⟩
  · have hstop : s.stop = s := by rw [Streams.stop, hs]
    rw [hstop, ← ht]
    exact ⟨h, fun hne => absurd rfl hne⟩
  · have hchannel : ∀ stream, (s.channel stream).Keeps (.capture n) (history stream) :=
      fun stream => ht ▸ h.channels stream
    have hstop : s.stop =
        { s with out := s.out.restore, err := s.err.restore, active := none } := by
      rw [Streams.stop, hs]
    have hstopped : ∀ stream, s.stop.channel stream = (s.channel stream).restore := by
      rw [hstop]
      intro stream
      cases stream <;> rfl
    refine ⟨⟨by rw [hstop]; rfl, by rw [hstop]; exact h.started, fun stream => ?_⟩, ?_⟩
    · rw [hstopped]
      exact (hchannel stream).restore.1
    · intro _ stream
      rw [hstopped]
      exact (hchannel stream).restore.2

theorem Keeps.update (h : Keeps t history s) {f : Channel → Channel} {stream : StandardStream}
    {more : StandardStream → List (Sink × UInt8)} (hother : ∀ other ≠ stream, more other = [])
    (hf : (f (s.channel stream)).Keeps t.holder (history stream ++ more stream)) :
    Keeps t (fun other => history other ++ more other) (s.update f stream) := by
  refine ⟨by cases stream <;> exact h.active, by cases stream <;> exact h.started, fun other => ?_⟩
  rw [channel_update]
  split
  next heq => exact heq ▸ hf
  next hne =>
    rw [hother other (Ne.symm hne), List.append_nil]
    exact h.channels other

theorem Keeps.step (h : Keeps t history s) (op : Op) : Keeps (t.step op)
    (fun stream => history stream ++ (op.bytes stream).map fun b => (t.holder, b))
    (s.step op) := by
  cases op with
  | start => simpa [Op.bytes, Streams.step] using h.start.1
  | refuse => simpa [Op.bytes, Streams.step] using h.refuse
  | finish => simpa [Op.bytes, Streams.step, Turn.step] using h.stop.1
  | drop => simpa [Op.bytes, Streams.step, Turn.step] using h.stop.1
  | drain stream n =>
    refine h.update (f := (·.drain n)) (fun _ _ => rfl) ?_
    simpa [Op.bytes] using (h.channels stream).drain n
  | write w =>
    refine h.update (f := (·.write w.bytes)) (fun other hne => ?_) ?_
    · simp [Op.bytes, hne.symm]
    · simpa [Op.bytes] using (h.channels w.stream).write w.bytes

end Step

theorem keeps_foldl {t : Turn} {history : StandardStream → List (Sink × UInt8)} {s : Streams}
    (h : Keeps t history s) (ops : List Op) : Keeps (ops.foldl Turn.step t)
      (fun stream => history stream ++ written stream t ops) (s.run ops) := by
  induction ops generalizing t history s with
  | nil => simpa [written] using h
  | cons op ops ih =>
    have hrest := ih (h.step op)
    simpa [written, run] using hrest

theorem keeps_run (ops : List Op) :
    Keeps (turn ops) (fun stream => written stream {} ops) (run {} ops) := by
  have hstart : Keeps {} (fun _ => []) {} := by
    refine ⟨rfl, rfl, fun stream => ?_⟩
    cases stream <;> exact ⟨rfl, rfl, rfl⟩
  simpa [turn] using keeps_foldl hstart ops

/-- What a capture is to return of a stream: what was written to it in the turn of the capture. -/
def due (stream : StandardStream) (number : Nat) (ops : List Op) : Bytes :=
  ((written stream {} ops).filter fun p => p.1 == .capture number).map Prod.snd

/-- How the streams stand after these operations. -/
structure Delivers (ops : List Op) (s : Streams) : Prop where
  bytes : ∀ stream, (s.channel stream).delivered ++
    (s.channel stream).pending.map (fun b => ((s.channel stream).sink, b)) = written stream {} ops
  /-- What waits will arrive where it belongs. -/
  flushed : ∀ stream, (s.channel stream).flush.delivered = written stream {} ops
  pointed : ∀ stream, (s.channel stream).sink = (turn ops).holder
  switched : ∀ op stream, ((turn ops).step op).holder ≠ (turn ops).holder →
    ((s.step op).channel stream).pending = []
  /-- A capture that is not active any more has what is due to it. -/
  returned : ∀ number, (turn ops).holder ≠ .capture number →
    s.captured number = ⟨Text.decodeLossy (due .out number ops),
      Text.decodeLossy (due .err number ops)⟩
  restored : ∀ op stream, op = .finish ∨ op = .drop →
    ((s.step op).channel stream).sink = .outside

/-- Whatever sequence of captures and writes there is, and whenever the streams pass on what was
written: each byte arrives once, in order, at the capture in whose turn it was written, or outside
if it was nobody's turn, and after a capture both streams point outside. -/
theorem delivers_run (ops : List Op) : Delivers ops (run {} ops) := by
  have h := keeps_run ops
  refine ⟨fun stream => (h.channels stream).bytes,
    fun stream => (h.channels stream).delivered_flush, fun stream => (h.channels stream).sink,
    fun op stream hne => ?_, fun number hne => ?_, fun op stream hop => ?_⟩
  · cases op with
    | start =>
      refine h.start.2 (Decidable.byContradiction fun hout => hne ?_) stream
      rw [Turn.step, if_neg hout]
    | refuse =>
      refine absurd ?_ hne
      rw [Turn.step]
      split
      next hout => exact hout.symm
      next => rfl
    | finish => exact h.stop.2 (Ne.symm hne) stream
    | drop => exact h.stop.2 (Ne.symm hne) stream
    | write w => exact absurd rfl hne
    | drain other n => exact absurd rfl hne
  · rw [captured, due, due, ← (h.channels .out).received hne, ← (h.channels .err).received hne]
    rfl
  · rcases hop with rfl | rfl
    · exact (h.stop.1.channels stream).sink
    · exact (h.stop.1.channels stream).sink

end Streams

end MetaLint
