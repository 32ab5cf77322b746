import WorkerMemory.Proofs.Registry.Lawful

/-! # The sharded store is lawful -/

namespace WorkerMemory.ShardedStore

theorem find?_of_mem {l : List Worker} (hl : (l.map (·.id)).Nodup) {w : Worker} (hw : w ∈ l) :
    l.find? (·.id == w.id) = some w := by
  induction l with
  | nil => contradiction
  | cons v l ih =>
    rw [List.map_cons, List.nodup_cons] at hl
    rcases List.mem_cons.mp hw with rfl | hw
    · simp
    · have hne : v.id ≠ w.id := fun h => hl.1 (h ▸ List.mem_map_of_mem hw)
      rw [List.find?_cons_of_neg (by simpa using hne)]
      exact ih hl.2 hw

theorem id_of_get? {id : WorkerId} {w : Worker} {store : ShardedStore}
    (h : store.get? id = some w) : w.id = id := by
  simpa using List.find?_some h

theorem mem_entries_iff {w : Worker} {store : ShardedStore} :
    w ∈ store.entries ↔ store.get? w.id = some w :=
  ⟨find?_of_mem store.distinct, List.mem_of_find?_eq_some⟩

theorem get?_add {w : Worker} {store : ShardedStore} (free : store.get? w.id = none)
    (id : WorkerId) :
    (store.add w free).get? id = if id = w.id then some w else store.get? id := by
  have happ : (store.add w free).get? id = (store.get? id).or ([w].find? (·.id == id)) :=
    List.find?_append
  rw [happ, List.find?_singleton]
  by_cases h : id = w.id
  · rw [h, free]; simp
  · simp [h, Ne.symm h]

theorem get?_erase (id' id : WorkerId) (store : ShardedStore) :
    (store.erase id').get? id = if id = id' then none else store.get? id := by
  unfold get? erase
  rw [List.find?_filter]
  split
  · next h => simp [h]
  · next h =>
    congr 1
    funext v
    by_cases hv : v.id = id <;> simp [hv, h]

theorem insertIfAbsent_taken {w v : Worker} {store : ShardedStore}
    (h : store.get? w.id = some v) : store.insertIfAbsent w = (false, store) := by
  unfold insertIfAbsent
  split
  · rfl
  · next hn => rw [h] at hn; contradiction

theorem insertIfAbsent_free {w : Worker} {store : ShardedStore} (h : store.get? w.id = none) :
    store.insertIfAbsent w = (true, store.add w h) := by
  unfold insertIfAbsent
  split
  · next hs => rw [h] at hs; contradiction
  · rfl

theorem removeStale_one (w : Worker) (store : ShardedStore) :
    removeStale [w] store =
      if store.get? w.id = some w then (1, store.erase w.id) else (0, store) := by
  simp only [removeStale, removeExact]
  split <;> simp_all

theorem removeStale_cons (w : Worker) (stale : List Worker) (store : ShardedStore) :
    removeStale (w :: stale) store =
      ((removeStale [w] store).1 + (removeStale stale (removeStale [w] store).2).1,
        (removeStale stale (removeStale [w] store).2).2) := by
  rw [removeStale_one, removeStale, removeExact]
  split <;> simp_all [Nat.add_comm]

instance : LawfulStore ShardedStore where
  get?_empty _ := rfl
  id_of_get? := id_of_get?
  insertIfAbsent_taken := insertIfAbsent_taken
  insertIfAbsent_free {w store} h := by
    have heq : WorkerStore.insertIfAbsent w store = (true, store.add w h) := insertIfAbsent_free h
    rw [heq]
    exact ⟨rfl, get?_add h⟩
  mem_snapshot := mem_entries_iff
  nodup_snapshot := distinct
  size_eq _ := rfl
  removeStale_nil _ := rfl
  removeStale_cons := removeStale_cons
  fst_removeStale_one w store := by
    change (removeStale [w] store).1 = if store.get? w.id = some w then 1 else 0
    rw [removeStale_one]
    split <;> rfl
  get?_removeStale_one w id store := by
    change (removeStale [w] store).2.get? id =
      if id = w.id ∧ store.get? w.id = some w then none else store.get? id
    rw [removeStale_one]
    by_cases h : store.get? w.id = some w
    · simp [h, get?_erase]
    · simp [h]

end WorkerMemory.ShardedStore
