import WorkerMemory.Proofs.Registry.Directory
import WorkerMemory.Proofs.Registry.Locked
import WorkerMemory.Proofs.Registry.Sharded

/-! # Removing what is listed

A list is worked through one worker after the other, and what the first ones take out is gone when
the later ones are looked for. In the end only the members of the list matter, not their order or
number.
-/

namespace WorkerMemory

open WorkerStore

/-- What becomes of a store when a list of workers is removed, whatever the list holds. -/
structure RemovesListed {σ : Type} [WorkerStore σ] (stale : List Worker) (store : σ) : Prop where
  kept : ∀ id w, get? id (removeStale stale store).2 = some w ↔ get? id store = some w ∧ w ∉ stale
  listed : (snapshot (removeStale stale store).2).Perm ((snapshot store).filter (· ∉ stale))
  counted : (removeStale stale store).1 + size (removeStale stale store).2 = size store
  /-- Neither order nor repetition matters. -/
  unordered : ∀ stale', (∀ w, w ∈ stale' ↔ w ∈ stale) →
    (removeStale stale' store).1 = (removeStale stale store).1 ∧
    Registry.directory (removeStale stale' store).2 = Registry.directory (removeStale stale store).2
  once : (removeStale stale (removeStale stale store).2).1 = 0 ∧
    Registry.directory (removeStale stale (removeStale stale store).2).2 =
      Registry.directory (removeStale stale store).2
  /-- A registry does the same, also where it does not ask its store. -/
  pruned : Registry.prune stale store = removeStale stale store

namespace Registry

variable {σ : Type} [WorkerStore σ] [LawfulStore σ]

theorem prune_eq_removeStale (stale : List Worker) (store : σ) :
    prune stale store = removeStale stale store :=
  Prod.ext (fst_prune stale store) (snd_prune stale store)

theorem get?_removeStale_eq_some_iff {stale : List Worker} {store : σ} {id : WorkerId}
    {w : Worker} :
    get? id (removeStale stale store).2 = some w ↔ get? id store = some w ∧ w ∉ stale := by
  rw [← snd_prune, get?_prune, Option.filter_eq_some_iff, decide_eq_true_iff]

theorem perm_snapshot_removeStale (stale : List Worker) (store : σ) :
    (snapshot (removeStale stale store).2).Perm ((snapshot store).filter (· ∉ stale)) := by
  rw [← snd_prune]
  exact (perm_snapshot_prune (.refl _) stale).symm

theorem fst_removeStale_add_size (stale : List Worker) (store : σ) :
    (removeStale stale store).1 + size (removeStale stale store).2 = size store := by
  have hleft : size (removeStale stale store).2 = (snapshot store).countP (· ∉ stale) := by
    rw [LawfulStore.size_eq, (perm_snapshot_removeStale stale store).length_eq,
      List.countP_eq_length_filter]
  rw [fst_removeStale, hleft, LawfulStore.size_eq,
    List.length_eq_countP_add_countP (· ∈ stale)]
  simp

theorem directory_removeStale (stale : List Worker) (store : σ) :
    directory (removeStale stale store).2 = (directory store).without stale := by
  rw [← snd_prune, directory_prune]

theorem fst_removeStale_congr {stale stale' : List Worker} (same : ∀ w, w ∈ stale' ↔ w ∈ stale)
    (store : σ) : (removeStale stale' store).1 = (removeStale stale store).1 := by
  rw [fst_removeStale, fst_removeStale]
  exact List.countP_congr fun w _ => by simp [same w]

theorem directory_removeStale_congr {stale stale' : List Worker}
    (same : ∀ w, w ∈ stale' ↔ w ∈ stale) (store : σ) :
    directory (removeStale stale' store).2 = directory (removeStale stale store).2 := by
  rw [directory_removeStale, directory_removeStale]
  funext id
  simp only [Directory.without, same]

theorem fst_removeStale_again (stale : List Worker) (store : σ) :
    (removeStale stale (removeStale stale store).2).1 = 0 := by
  rw [fst_removeStale, List.countP_eq_zero]
  intro w hw
  rw [LawfulStore.mem_snapshot, get?_removeStale_eq_some_iff] at hw
  simpa using hw.2

theorem directory_removeStale_again (stale : List Worker) (store : σ) :
    directory (removeStale stale (removeStale stale store).2).2 =
      directory (removeStale stale store).2 := by
  rw [directory_removeStale, directory_removeStale]
  funext id
  simp only [Directory.without, Option.filter_filter, Bool.and_self]

theorem removesListed (stale : List Worker) (store : σ) : RemovesListed stale store where
  kept _ _ := get?_removeStale_eq_some_iff
  listed := perm_snapshot_removeStale stale store
  counted := fst_removeStale_add_size stale store
  unordered _ same := ⟨fst_removeStale_congr same store, directory_removeStale_congr same store⟩
  once := ⟨fst_removeStale_again stale store, directory_removeStale_again stale store⟩
  pruned := prune_eq_removeStale stale store

/-- Either store loses just what is listed as it is, and counts it. -/
theorem stores_remove_listed (stale : List Worker) :
    (∀ store : ShardedStore, RemovesListed stale store) ∧
      ∀ store : LockedStore, RemovesListed stale store :=
  ⟨removesListed stale, removesListed stale⟩

end Registry

end WorkerMemory
