import WorkerMemory.Registry.Store

/-! # A store in which each worker is guarded by itself -/

namespace WorkerMemory

structure ShardedStore where
  entries : List Worker
  /-- No id has two workers. -/
  distinct : (entries.map (·.id)).Nodup
  deriving DecidableEq, Repr

namespace ShardedStore

def get? (id : WorkerId) (store : ShardedStore) : Option Worker :=
  store.entries.find? (·.id == id)

/-- Adds a worker whose id is free. -/
def add (w : Worker) (store : ShardedStore) (free : store.get? w.id = none) : ShardedStore where
  entries := store.entries ++ [w]
  distinct := by
    rw [List.map_append, List.nodup_append]
    refine ⟨store.distinct, by simp, ?_⟩
    intro id hid id' hid' heq
    obtain ⟨v, hv, rfl⟩ := List.mem_map.1 hid
    obtain rfl : id' = w.id := by simpa using hid'
    have := List.find?_eq_none.1 free v hv
    simp [heq] at this

/-- What remains without the worker of an id. -/
def erase (id : WorkerId) (store : ShardedStore) : ShardedStore where
  entries := store.entries.filter (·.id != id)
  distinct := store.distinct.sublist (List.filter_sublist.map _)

def insertIfAbsent (w : Worker) (store : ShardedStore) : Bool × ShardedStore :=
  match h : store.get? w.id with
  | some _ => (false, store)
  | none => (true, store.add w h)

/-- Removes the entry with the id of `w` if it equals `w`. -/
def removeExact (w : Worker) (store : ShardedStore) : Option ShardedStore :=
  if store.get? w.id = some w then some (store.erase w.id) else none

/-- One entry after the other: others may use the store between two removals. -/
def removeStale : List Worker → ShardedStore → Nat × ShardedStore
  | [], store => (0, store)
  | w :: stale, store =>
    match store.removeExact w with
    | none => removeStale stale store
    | some smaller =>
      let (count, rest) := removeStale stale smaller
      (count + 1, rest)

instance : WorkerStore ShardedStore where
  empty := ⟨[], .nil⟩
  insertIfAbsent := insertIfAbsent
  get? := get?
  snapshot := entries
  removeStale := removeStale
  size store := store.entries.length

end ShardedStore

end WorkerMemory
