import MetaLint.Run.Bench

/-!
# Runs

A run executes every enabled tool on a project and collects the issues. A tool that fails leaves an
issue and does not end the run; what tools write to the standard streams is captured and reported. A
run that cannot be carried out ends with an error.
-/

set_option autoImplicit false

namespace MetaLint

inductive RunState
  | notStarted
  | running
  | completed
  | interrupted
  | failed
  deriving Repr, DecidableEq

structure Refusals where
  capture : Option Disk.Fault := none
  readBack : Bool := false
  worker : Option (Nat × Disk.Fault) := none
  deriving Repr, DecidableEq, Inhabited

structure RunRequest where
  registry : ToolRegistry
  config : Config
  disk : Disk
  project : Path
  captures : Bool := true
  cancelled : Bool := false
  refusals : Refusals := {}

structure RunEnd where
  result : Except Error Collector
  state : RunState
  events : List RunEvent
  cancelled : Bool
  executed : List (Job × ToolRun) := []

namespace RunRequest

def jobs (r : RunRequest) : List Job := Job.ofRegistry r.registry r.config

def workerCount (r : RunRequest) : Nat := min (max r.config.workers 1) r.jobs.length

def refusedWorker? (r : RunRequest) : Option (Nat × Disk.Fault) :=
  r.refusals.worker.filter fun w => w.1 < r.workerCount

def startedWorkers (r : RunRequest) : Nat :=
  match r.refusedWorker? with
  | some (n, _) => n
  | none => r.workerCount

def bench (r : RunRequest) (f : Finder) : Bench where
  queue := r.jobs
  workers := List.replicate r.startedWorkers none
  cancelled := r.cancelled
  disk := r.disk
  finder := f
  collector := .ofConfig r.config
  streams := if r.captures then Streams.start {} else {}
  events := [.start]

def strayIssue (stream : String) (project : Path) (text : List Char) : List Issue :=
  if text.isEmpty then []
  else [.toolReport ("Tool(s) wrote to " ++ stream) project (some (String.ofList text)) false]

def strayIssues (project : Path) (c : Captured) : List Issue :=
  strayIssue "stdout" project c.out ++ strayIssue "stderr" project c.err

def abort (e : Error) (events : List RunEvent) (cancelled : Bool)
    (executed : List (Job × ToolRun)) : RunEnd :=
  { result := .error e, state := .failed, events := events ++ [.finish], cancelled, executed }

def collected (r : RunRequest) (b : Bench) : Collector :=
  let c :=
    if r.captures && !r.refusals.readBack then
      b.collector.add (strayIssues b.finder.project (b.streams.stop.captured 0))
    else b.collector
  if b.cancelled then c.markFailed else c

def conclude (r : RunRequest) (b : Bench) : RunEnd :=
  { result := .ok (r.collected b)
    state := if b.cancelled then .interrupted else .completed
    events := b.events ++ [.finish]
    cancelled := b.cancelled
    executed := b.executed }

/-- The run whose workers make these moves first, and then those that are left to be made. -/
def perform (r : RunRequest) (moves : List Bench.Move) : RunEnd :=
  if r.jobs.isEmpty then
    { result := .ok (.ofConfig r.config), state := .completed, events := [.start, .finish],
      cancelled := r.cancelled }
  else
    match Finder.create r.disk r.project r.config with
    | .error e => abort e [.start] r.cancelled []
    | .ok f =>
      match r.captures, r.refusals.capture with
      | true, some fault => abort (.io fault) [.start] r.cancelled []
      | _, _ =>
        let b := ((r.bench f).perform moves).close
        match r.refusedWorker? with
        | some (_, fault) => abort (.io fault) b.events b.cancelled b.executed
        | none => r.conclude b

def run (r : RunRequest) : RunEnd := r.perform []

end RunRequest

end MetaLint
