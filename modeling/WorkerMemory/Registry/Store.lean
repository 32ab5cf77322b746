import Std.Data.TreeMap
import WorkerMemory.Worker

/-! # Where registered workers are kept -/

namespace WorkerMemory

/-- Workers by id. Every operation happens at once: no other comes between its parts. -/
class WorkerStore (σ : Type) where
  empty : σ
  /-- Whether the worker went in; an id that is taken keeps its worker. -/
  insertIfAbsent : Worker → σ → Bool × σ
  get? : WorkerId → σ → Option Worker
  /-- All workers, in no particular order. -/
  snapshot : σ → List Worker
  /-- Removes the workers that are still exactly as listed, and counts them. -/
  removeStale : List Worker → σ → Nat × σ
  size : σ → Nat

/-- Drops every worker. -/
def WorkerStore.clear {σ : Type} [WorkerStore σ] (_ : σ) : σ := empty

def WorkerStore.isEmpty {σ : Type} [WorkerStore σ] (store : σ) : Bool := size store == 0

def WorkerStore.toMap {σ : Type} [WorkerStore σ] (store : σ) : Std.TreeMap WorkerId Worker :=
  (snapshot store).foldl (fun map w => map.insert w.id w) ∅

end WorkerMemory
