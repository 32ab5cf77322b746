import WorkerMemory.Log.Event
import WorkerMemory.Registry.Locked
import WorkerMemory.Registry.Sharded

/-! # The registry of workers -/

namespace WorkerMemory.Registry

variable {σ : Type} [WorkerStore σ]

/-- The first registration of an id stays. -/
def register (w : Worker) (store : σ) : Bool × σ := WorkerStore.insertIfAbsent w store

/-- Removes what is still exactly as listed. -/
def prune (stale : List Worker) (store : σ) : Nat × σ :=
  if stale.isEmpty then (0, store) else WorkerStore.removeStale stale store

def takenEvent (id : WorkerId) : Log.Event := {
  level := .debug
  target := "worker_metrics::registry"
  message := "worker already registered, keeping first registration"
  fields := [("worker_id", toString id.toNat)] }

end WorkerMemory.Registry
