import WorkerMemory.Collector
import WorkerMemory.CommandLine.Invocation
import WorkerMemory.Failure
import WorkerMemory.Metric.Json
import WorkerMemory.Table

/-! # Cycles on the command line -/

namespace WorkerMemory.CommandLine

/-- Something a run tells. -/
inductive Told where
  /-- A text on standard output. -/
  | output (text : String)
  /-- A line on standard error. -/
  | notice (line : String)
  | event (e : Log.Event)
  deriving DecidableEq, Repr

/-- The part of a session that has been gone through. -/
structure Session (σ : Type) where
  store : σ
  told : List Told := []
  /-- The arguments of the runs of `ps`. -/
  asked : List (List String) := []

namespace Session

variable {σ : Type} [WorkerStore σ]

def tell (s : Session σ) (told : List Told) : Session σ := { s with told := s.told ++ told }

def target : String := "worker_metrics::commands::collect"

/-! ## Registering -/

/-- A worker without a process is registered all the same. -/
def doubts (w : Worker) : List Told :=
  match w.validate with
  | .ok () => []
  | .error e => [.event {
      level := .warn
      target
      message := (Failure.value e).message
      fields := [("worker_id", toString w.id.toNat)] }]

def takenNotice (id : WorkerId) : String :=
  "warning: worker " ++ toString id.toNat ++ " listed twice, keeping the first process id"

def register (s : Session σ) (spec : WorkerSpec) : Session σ :=
  let w := spec.toWorker
  let (isNew, store) := Registry.register w s.store
  let taken := if isNew then [] else [.event (Registry.takenEvent w.id), .notice (takenNotice w.id)]
  { s with store }.tell (doubts w ++ taken)

/-! ## One cycle -/

def droppedNotice (w : Worker) : String :=
  "✗ worker " ++ toString w.id.toNat ++ " (pid " ++ toString w.pid.toInt ++
    ") could not be measured, dropped"

def report (asJson : Bool) (metrics : List Metric) : List Told :=
  .output (if asJson then Metric.jsonLines metrics else Table.format metrics) ::
    (metrics.filter (!·.isMeasurable)).map fun m => .notice (droppedNotice m.worker)

/-- What one cycle finds. -/
structure Scene where
  machine : Machine
  now : Instant

def cycle (asJson : Bool) (s : Session σ) (scene : Scene) : Session σ :=
  let c := Cycle.alone scene.machine scene.now .current s.store
  { s with store := c.store, asked := s.asked ++ c.asked }.tell
    (c.events.map Told.event ++ report asJson c.metrics)

/-! ## Many cycles -/

def ending (message : String) : Told := .event { level := .info, target, message }

/-- What is told at the end, if no further cycle follows: the limit is reached, or no worker is
left. -/
def ending? (limit : Option UInt64) (completed : Nat) (s : Session σ) : Option (List Told) :=
  if limit.any (·.toNat ≤ completed) then some []
  else if WorkerStore.isEmpty s.store then some [ending "no measurable workers left"]
  else none

/-- Goes on to the end, or until it is interrupted after the last of the scenes. -/
def watch (asJson : Bool) (limit : Option UInt64) : (completed : Nat) → List Scene → Session σ →
    Session σ
  | _, [], s => s.tell [ending "interrupted, stopping"]
  | completed, scene :: scenes, s =>
    let s := s.cycle asJson scene
    match s.ending? limit (completed + 1) with
    | some told => s.tell told
    | none => watch asJson limit (completed + 1) scenes s

/-- Nothing is kept at the end. -/
def shutDown (s : Session σ) : Session σ :=
  { s with store := WorkerStore.clear s.store }.tell
    [.event (shutdownEvent (WorkerStore.size s.store))]

def begin (i : Invocation) (store : σ) : Session σ := i.workers.foldl register { store }

def run (i : Invocation) (scenes : List Scene) (store : σ) : Session σ :=
  let s := begin i store
  let s := match i.command, scenes with
    | .collect, scene :: _ => s.cycle i.json scene
    | .collect, [] => s
    | .watch, scenes => s.watch i.json i.cycles 0 scenes
  s.shutDown

end Session

end WorkerMemory.CommandLine
