import Mathlib.Data.List.Nodup
import WorkerMemory.Registry

/-! # What every store of workers keeps to

The laws of a store, and what they make of the operations of a registry. Both stores are lawful.
-/

namespace WorkerMemory

open WorkerStore

/-- One worker for each id at most, the first that went in, and each listed once. -/
class LawfulStore (σ : Type) [WorkerStore σ] : Prop where
  get?_empty (id : WorkerId) : get? id (empty : σ) = none
  id_of_get? {id : WorkerId} {w : Worker} {store : σ} : get? id store = some w → w.id = id
  insertIfAbsent_taken {w v : Worker} {store : σ} :
    get? w.id store = some v → insertIfAbsent w store = (false, store)
  insertIfAbsent_free {w : Worker} {store : σ} : get? w.id store = none →
    (insertIfAbsent w store).1 = true ∧
      ∀ id, get? id (insertIfAbsent w store).2 = if id = w.id then some w else get? id store
  mem_snapshot {w : Worker} {store : σ} : w ∈ snapshot store ↔ get? w.id store = some w
  nodup_snapshot (store : σ) : ((snapshot store).map (·.id)).Nodup
  size_eq (store : σ) : size store = (snapshot store).length
  removeStale_nil (store : σ) : removeStale [] store = (0, store)
  /-- A list is worked through from its head. -/
  removeStale_cons (w : Worker) (stale : List Worker) (store : σ) :
    removeStale (w :: stale) store =
      let first := removeStale [w] store
      let rest := removeStale stale first.2
      (first.1 + rest.1, rest.2)
  fst_removeStale_one (w : Worker) (store : σ) :
    (removeStale [w] store).1 = if get? w.id store = some w then 1 else 0
  get?_removeStale_one (w : Worker) (id : WorkerId) (store : σ) :
    get? id (removeStale [w] store).2 =
      if id = w.id ∧ get? w.id store = some w then none else get? id store

/-! ## Lawful registries -/

namespace Registry

variable {σ : Type} [WorkerStore σ] [LawfulStore σ]

@[simp]
theorem get?_clear (id : WorkerId) (store : σ) : get? id (clear store) = none :=
  LawfulStore.get?_empty id

theorem fst_register (w : Worker) (store : σ) :
    (register w store).1 = (get? w.id store).isNone := by
  unfold register
  cases h : get? w.id store with
  | some v => rw [LawfulStore.insertIfAbsent_taken h]; rfl
  | none => exact (LawfulStore.insertIfAbsent_free h).1

theorem get?_register (w : Worker) (id : WorkerId) (store : σ) :
    get? id (register w store).2 = (get? id store).or (if id = w.id then some w else none) := by
  unfold register
  cases h : get? w.id store with
  | some v =>
    rw [LawfulStore.insertIfAbsent_taken h]
    split
    · next heq => rw [heq, h]; rfl
    · rw [Option.or_none]
  | none =>
    rw [(LawfulStore.insertIfAbsent_free h).2 id]
    split
    · next heq => rw [heq, h]; rfl
    · rw [Option.or_none]

theorem get?_register_self {w : Worker} {store : σ} (h : (register w store).1 = true) :
    get? w.id (register w store).2 = some w := by
  rw [fst_register, Option.isNone_iff_eq_none] at h
  rw [get?_register, h]
  simp

theorem snd_prune (stale : List Worker) (store : σ) :
    (prune stale store).2 = (removeStale stale store).2 := by
  unfold prune
  split
  · next h => rw [List.isEmpty_iff.mp h, LawfulStore.removeStale_nil]
  · rfl

theorem snd_prune_cons (w : Worker) (stale : List Worker) (store : σ) :
    (prune (w :: stale) store).2 = (prune stale (prune [w] store).2).2 := by
  rw [snd_prune, snd_prune, snd_prune, LawfulStore.removeStale_cons]

theorem get?_prune_one (w : Worker) (id : WorkerId) (store : σ) :
    get? id (prune [w] store).2 = (get? id store).filter (· ≠ w) := by
  rw [snd_prune, LawfulStore.get?_removeStale_one]
  cases h : get? id store with
  | none => simp
  | some v =>
    obtain rfl := LawfulStore.id_of_get? h
    by_cases hv : v = w
    · subst hv
      rw [if_pos ⟨rfl, h⟩]
      simp [Option.filter_some]
    · rw [if_neg, Option.filter_some, if_pos (by simpa using hv)]
      rintro ⟨heq, hw⟩
      rw [← heq, h] at hw
      exact hv (Option.some.inj hw)

theorem get?_prune (stale : List Worker) (id : WorkerId) (store : σ) :
    get? id (prune stale store).2 = (get? id store).filter (· ∉ stale) := by
  induction stale generalizing store with
  | nil =>
    rw [snd_prune, LawfulStore.removeStale_nil]
    cases get? id store <;> simp [Option.filter_some]
  | cons w stale ih =>
    rw [snd_prune_cons, ih, get?_prune_one, Option.filter_filter]
    congr 1
    funext v
    simp

theorem perm_snapshot_prune {order : List Worker} {store : σ} (listed : order.Perm (snapshot store))
    (stale : List Worker) : (order.filter (· ∉ stale)).Perm (snapshot (prune stale store).2) := by
  have hsnapshot (s : σ) : (snapshot s).Nodup := (LawfulStore.nodup_snapshot s).of_map
  rw [List.perm_ext_iff_of_nodup ((listed.nodup_iff.mpr (hsnapshot store)).filter _) (hsnapshot _)]
  intro w
  rw [LawfulStore.mem_snapshot, get?_prune, Option.filter_eq_some_iff, List.mem_filter,
    listed.mem_iff, LawfulStore.mem_snapshot]

end Registry

end WorkerMemory
