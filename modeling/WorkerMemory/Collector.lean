import WorkerMemory.Metric
import WorkerMemory.Registry
import WorkerMemory.Sampling
import WorkerMemory.Settings

/-! # Collection cycles -/

namespace WorkerMemory

/-- What a collector can ask the machine: which processes some roots own, and their memory. -/
structure Machine where
  resolve : List Pid → Ownership
  sample : List Pid → Sampling

/-- A machine on which nothing changes: each process keeps its parent and its memory. -/
def Machine.still (table : ProcessTable) (memory : Samples) : Machine where
  resolve := table.owners
  sample pids := { memory := memory.filter fun pid _ => pids.contains pid }

/-- One look at the memory of some roots. -/
structure Survey where
  roots : List Pid
  owners : Ownership
  sampling : Sampling
  stats : Std.TreeMap Pid Stat

namespace Survey

/-- Nothing is looked at where `ps` is not known to work. -/
def take (machine : Machine) (now : Instant) (platform : Platform) (roots : List Pid) :
    Option Survey :=
  if platform.supportsAccounting then
    let owners := machine.resolve roots
    let sampling := machine.sample owners.keys
    some { roots, owners, sampling, stats := usage owners sampling.memory now }
  else none

def target : String := "worker_metrics::collector"

def events (s : Survey) : List Log.Event :=
  s.sampling.events ++ [{
    level := .debug
    target
    message := "collected process stats"
    fields := [
      ("roots", toString s.roots.length),
      ("processes", toString s.owners.size),
      ("sampled", toString s.sampling.memory.size)] }]

/-- Joins a worker to the memory of its process. -/
def metric (survey : Option Survey) (w : Worker) : Metric :=
  match survey.bind (·.stats[w.pid]?) with
  | some stat => .measured w stat
  | none => .unmeasurable w

end Survey

/-- One cycle: what it saw, what it reports and what it leaves. -/
structure Cycle (σ : Type) where
  survey : Option Survey
  metrics : List Metric
  removed : Nat
  store : σ

/-- The arguments of the runs of `ps`. -/
def Cycle.asked {σ : Type} (c : Cycle σ) : List (List String) :=
  c.survey.elim [] (·.sampling.asked.toList)

namespace Cycle

variable {σ : Type} [WorkerStore σ]

/-- The workers that a report shows without memory. -/
def stale (metrics : List Metric) : List Worker :=
  (metrics.filter (!·.isMeasurable)).map (·.worker)

/-- Every worker of the snapshot is reported; those without memory are removed afterwards, as far as
they are still registered unchanged. `during` is what others do to the store while memory is
sampled. -/
def ofSnapshot (machine : Machine) (now : Instant) (platform : Platform) (during : σ → σ)
    (snapshot : List Worker) (store : σ) : Cycle σ :=
  let survey := Survey.take machine now platform (snapshot.map (·.pid))
  let metrics := snapshot.map (Survey.metric survey)
  let (removed, store) :=
    Registry.prune (stale metrics) (if survey.isSome then during store else store)
  { survey, metrics, removed, store }

def run (machine : Machine) (now : Instant) (platform : Platform) (during : σ → σ) (store : σ) :
    Cycle σ :=
  ofSnapshot machine now platform during (WorkerStore.snapshot store) store

/-- A cycle that nobody interferes with. -/
def alone (machine : Machine) (now : Instant) (platform : Platform) (store : σ) : Cycle σ :=
  run machine now platform id store

def removedEvent (removed : Nat) : Log.Event := {
  level := .debug
  target := Survey.target
  message := "removed unmeasurable workers"
  fields := [("pruned", toString removed)] }

def events (c : Cycle σ) : List Log.Event :=
  (c.survey.elim [] Survey.events) ++ if c.removed = 0 then [] else [removedEvent c.removed]

end Cycle

/-! ## The end of a collector -/

/-- Told at shutdown, which then drops every worker. -/
def shutdownEvent (workers : Nat) : Log.Event := {
  level := .info
  target := Survey.target
  message := "shutting down worker metrics collector"
  fields := [("workers", toString workers)] }

/-- One line about a collector. -/
def describeCollector (workers : Nat) (platform : Platform) : String :=
  "WorkerMetricsCollector \x7b workers: " ++ toString workers ++ ", platform: " ++ platform.label ++
    ", .. \x7d"

/-- The same for a collector whose backend the settings chose. -/
def describeConfigured (backend : Backend) (workers : Nat) (platform : Platform) : String :=
  backend.label ++ "(" ++ describeCollector workers platform ++ ")"

end WorkerMemory
