import WorkerMemory.Proofs.Registry.Lawful

/-! # The store behind one lock is lawful -/

namespace WorkerMemory.LockedStore

variable {store : LockedStore}

theorem getElem?_put (w : Worker) (store : LockedStore) (id : WorkerId) :
    (store.put w).workers[id]? = if id = w.id then some w else store.workers[id]? := by
  rw [put, Std.TreeMap.getElem?_insert]
  simp only [Std.compare_eq_iff_eq, @eq_comm _ w.id id]

theorem getElem?_erase (id' id : WorkerId) (store : LockedStore) :
    (store.erase id').workers[id]? = if id = id' then none else store.workers[id]? := by
  rw [erase, Std.TreeMap.getElem?_erase]
  simp only [Std.compare_eq_iff_eq, @eq_comm _ id' id]

theorem contains_iff {id : WorkerId} : store.workers.contains id ↔ store.workers[id]? ≠ none := by
  rw [Std.TreeMap.contains_eq_isSome_getElem?, Option.isSome_iff_ne_none]

theorem mem_snapshot {w : Worker} :
    w ∈ store.workers.toList.map (·.2) ↔ store.workers[w.id]? = some w := by
  rw [List.mem_map]
  constructor
  · rintro ⟨⟨id, v⟩, hv, rfl⟩
    have h := Std.TreeMap.mem_toList_iff_getElem?_eq_some.mp hv
    rwa [store.keyed id v h]
  · intro h
    exact ⟨(w.id, w), Std.TreeMap.mem_toList_iff_getElem?_eq_some.mpr h, rfl⟩

theorem nodup_snapshot (store : LockedStore) :
    ((store.workers.toList.map (·.2)).map (·.id)).Nodup := by
  have hkeys : (store.workers.toList.map (·.2)).map (·.id) = store.workers.keys := by
    rw [← Std.TreeMap.map_fst_toList_eq_keys, List.map_map]
    apply List.map_congr_left
    rintro ⟨id, v⟩ hv
    exact store.keyed id v (Std.TreeMap.mem_toList_iff_getElem?_eq_some.mp hv)
  rw [hkeys]
  exact Std.TreeMap.distinct_keys.imp (by simp)

theorem removeEach_eq (removed : Nat) (store : LockedStore) (stale : List Worker) :
    removeEach removed store stale =
      (removed + (removeEach 0 store stale).1, (removeEach 0 store stale).2) := by
  induction stale generalizing removed store with
  | nil => rfl
  | cons w stale ih =>
    simp only [removeEach]
    split
    · rw [ih (removed + 1), ih (0 + 1)]
      simp only [Nat.add_assoc, Nat.zero_add]
    · exact ih removed store

theorem removeStale_one (w : Worker) (store : LockedStore) :
    removeStale [w] store =
      if store.workers[w.id]? = some w then (1, store.erase w.id) else (0, store) := by
  simp only [removeStale, removeEach]

theorem removeStale_cons (w : Worker) (stale : List Worker) (store : LockedStore) :
    removeStale (w :: stale) store =
      ((removeStale [w] store).1 + (removeStale stale (removeStale [w] store).2).1,
        (removeStale stale (removeStale [w] store).2).2) := by
  rw [removeStale_one]
  unfold removeStale
  rw [removeEach]
  split
  · exact removeEach_eq 1 _ stale
  · simp

instance : LawfulStore LockedStore where
  get?_empty id := by
    change (∅ : Std.TreeMap WorkerId Worker)[id]? = none
    exact Std.TreeMap.getElem?_emptyc
  id_of_get? {id w store} h := store.keyed id w h
  insertIfAbsent_taken {w v store} h := by
    have hv : store.workers[w.id]? = some v := h
    have hc : store.workers.contains w.id := contains_iff.mpr (by simp [hv])
    change insertIfAbsent w store = _
    rw [insertIfAbsent, if_pos hc]
  insertIfAbsent_free {w store} h := by
    have hc : ¬ store.workers.contains w.id := fun hc => contains_iff.mp hc h
    have heq : WorkerStore.insertIfAbsent w store = (true, store.put w) := by
      change insertIfAbsent w store = _
      rw [insertIfAbsent, if_neg hc]
    rw [heq]
    exact ⟨rfl, getElem?_put w store⟩
  mem_snapshot := mem_snapshot
  nodup_snapshot := nodup_snapshot
  size_eq store := by
    change store.workers.size = (store.workers.toList.map (·.2)).length
    rw [List.length_map, Std.TreeMap.length_toList]
  removeStale_nil _ := rfl
  removeStale_cons := removeStale_cons
  fst_removeStale_one w store := by
    change (removeStale [w] store).1 = if store.workers[w.id]? = some w then 1 else 0
    rw [removeStale_one]
    split <;> rfl
  get?_removeStale_one w id store := by
    change (removeStale [w] store).2.workers[id]? =
      if id = w.id ∧ store.workers[w.id]? = some w then none else store.workers[id]?
    rw [removeStale_one]
    by_cases h : store.workers[w.id]? = some w
    · simp [h, getElem?_erase]
    · simp [h]

end WorkerMemory.LockedStore
