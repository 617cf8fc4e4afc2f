import MetaLint.Tool.Builtin
import MetaLint.Collector
import MetaLint.Progress

/-!
# The workers of a run

Every enabled tool is one job. Workers take jobs from a common queue, and one job at a time goes
through its phases with a worker. Moves of different workers may come in any order, and a
cancellation may come between any two of them.
-/

set_option autoImplicit false

namespace MetaLint

structure Job where
  tool : Tool
  config : ToolConfig

namespace Job

def name (j : Job) : String := j.tool.name

def blockOf (c : Config) (t : Tool) : ToolConfig := (c.tool? t.name).getD t.defaults

/-- The jobs of the tools that are enabled and can run here, in the order of their names. -/
def ofRegistry (r : ToolRegistry) (c : Config) : List Job :=
  (Keyed.values r).filterMap fun t =>
    let config := blockOf c t
    if config.enabled && t.usable then some ⟨t, config⟩ else none

def failureIssue (name : String) (project : Path) (failure : ToolFailure) : Issue :=
  .toolReport (name ++ " failed horribly") project (some failure.message) true

def issues (j : Job) (project : Path) (run : ToolRun) : List Issue :=
  match run.result with
  | .ok issues => issues
  | .error failure => [failureIssue j.name project failure]

end Job

inductive Phase
  | received
  | accepted
  | started
  | executed (run : ToolRun)
  | finished (run : ToolRun)

structure Bench where
  queue : List Job
  workers : List (Option (Job × Phase))
  cancelled : Bool
  disk : Disk
  finder : Finder
  collector : Collector
  streams : Streams := {}
  events : List RunEvent := []
  executed : List (Job × ToolRun) := []

namespace Bench

inductive Move
  | receive (worker : Nat)
  | advance (worker : Nat)
  | cancel
  deriving Repr, DecidableEq

def worker? (b : Bench) (w : Nat) : Option (Job × Phase) := (b.workers[w]?).join

def assign (b : Bench) (w : Nat) (task : Option (Job × Phase)) : Bench :=
  { b with workers := b.workers.set w task }

def emit (b : Bench) (e : RunEvent) : Bench := { b with events := b.events ++ [e] }

def receive (b : Bench) (w : Nat) : Bench :=
  match b.workers[w]?, b.queue with
  | some none, j :: rest => { b.assign w (some (j, .received)) with queue := rest }
  | _, _ => b

/-- What an execution does besides returning. A tool leaves files with the finder, and the rest of
the finder as it is. -/
def execute (b : Bench) (j : Job) (run : ToolRun) : Bench :=
  { b with
    finder := { b.finder with contents := run.finder.contents }
    streams := run.written.foldl Streams.write b.streams
    cancelled := b.cancelled || run.cancels
    executed := b.executed ++ [(j, run)] }

def advanceJob (b : Bench) (w : Nat) (j : Job) : Phase → Bench
  | .received => b.assign w (if b.cancelled then none else some (j, .accepted))
  | .accepted => (b.emit (.toolStart j.name)).assign w (some (j, .started))
  | .started =>
    let run := j.tool.execute b.finder b.disk j.config
    (b.execute j run).assign w (some (j, .executed run))
  | .executed run => (b.emit (.toolFinish j.name)).assign w (some (j, .finished run))
  | .finished run =>
    { b.assign w none with collector := b.collector.add (j.issues b.finder.project run) }

def advance (b : Bench) (w : Nat) : Bench :=
  match b.worker? w with
  | some (j, phase) => b.advanceJob w j phase
  | none => b

def step (b : Bench) : Move → Bench
  | .receive w => b.receive w
  | .advance w => b.advance w
  | .cancel => { b with cancelled := true }

def perform (b : Bench) (moves : List Move) : Bench := moves.foldl step b

/-- No worker has a job and none is waiting, or nobody is there to do it. -/
def isDone (b : Bench) : Bool :=
  b.workers.all Option.isNone && (b.queue.isEmpty || b.workers.isEmpty)

def phaseCount : Nat := 5

def complete (w : Nat) : List Move := List.replicate phaseCount (.advance w)

/-- Moves after which everything is done: the workers end their jobs one after the other, and the
first worker does what is left. -/
def closing (b : Bench) : List Move :=
  (List.range b.workers.length).flatMap complete ++
    b.queue.flatMap fun _ => .receive 0 :: complete 0

def close (b : Bench) : Bench := b.perform b.closing

@[simp] theorem perform_nil (b : Bench) : b.perform [] = b := rfl

theorem perform_append (b : Bench) (m n : List Move) :
    b.perform (m ++ n) = (b.perform m).perform n := by
  simp [perform]

end Bench

end MetaLint
