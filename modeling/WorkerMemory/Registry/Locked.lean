import WorkerMemory.Registry.Store

/-! # A store behind one lock -/

namespace WorkerMemory

structure LockedStore where
  workers : Std.TreeMap WorkerId Worker
  /-- Each worker is kept under its own id. -/
  keyed : ∀ (id : WorkerId) (w : Worker), workers[id]? = some w → w.id = id

namespace LockedStore

/-- Puts a worker in, in the place of one with the same id. -/
def put (w : Worker) (store : LockedStore) : LockedStore where
  workers := store.workers.insert w.id w
  keyed id v h := by
    rw [Std.TreeMap.getElem?_insert] at h
    split at h
    · next heq =>
      obtain rfl := Option.some.inj h
      simpa using heq
    · exact store.keyed id v h

/-- What remains without the worker of an id. -/
def erase (id : WorkerId) (store : LockedStore) : LockedStore where
  workers := store.workers.erase id
  keyed id' v h := by
    rw [Std.TreeMap.getElem?_erase] at h
    split at h
    · contradiction
    · exact store.keyed id' v h

def insertIfAbsent (w : Worker) (store : LockedStore) : Bool × LockedStore :=
  if store.workers.contains w.id then (false, store) else (true, store.put w)

/-- The whole list is worked through under the lock, with the count so far in `removed`. -/
def removeEach (removed : Nat) (store : LockedStore) : List Worker → Nat × LockedStore
  | [] => (removed, store)
  | w :: stale =>
    if store.workers[w.id]? = some w then removeEach (removed + 1) (store.erase w.id) stale
    else removeEach removed store stale

def removeStale (stale : List Worker) (store : LockedStore) : Nat × LockedStore :=
  removeEach 0 store stale

instance : WorkerStore LockedStore where
  empty := ⟨∅, by simp⟩
  insertIfAbsent := insertIfAbsent
  get? id store := store.workers[id]?
  snapshot store := store.workers.toList.map (·.2)
  removeStale := removeStale
  size store := store.workers.size

end LockedStore

end WorkerMemory
