import WorkerMemory.Usage

/-! # What one cycle finds out about a worker -/

namespace WorkerMemory

structure Metric where
  worker : Worker
  stat : Option Stat
  isMeasurable : Bool
  deriving DecidableEq

namespace Metric

def measured (worker : Worker) (stat : Stat) : Metric :=
  { worker, stat := some stat, isMeasurable := true }

def unmeasurable (worker : Worker) : Metric :=
  { worker, stat := none, isMeasurable := false }

end Metric

/-- A metric as it is handed to monitoring. -/
structure Report where
  worker : Worker
  measurable : Bool
  residentKb : Option KiB := none
  residentBytes : Option UInt64 := none
  observedAt : Option Instant := none
  deriving DecidableEq

def Metric.toReport (m : Metric) : Report := {
  worker := m.worker
  measurable := m.isMeasurable
  residentKb := m.stat.map (·.kb)
  residentBytes := m.stat.map (·.bytes)
  observedAt := m.stat.map (·.observedAt) }

end WorkerMemory
