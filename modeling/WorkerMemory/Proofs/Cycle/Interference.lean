import WorkerMemory.Proofs.Cycle.Metrics
import WorkerMemory.Proofs.Registry.Locked
import WorkerMemory.Proofs.Registry.Operation

/-! # What a cycle leaves when others use the registry meanwhile

A cycle takes out what it listed and could not measure, as far as it is still there unchanged. It
cannot tell an entry that stayed from an equal one that was registered again.
-/

namespace WorkerMemory.Cycle

open Registry

variable {σ : Type} [WorkerStore σ]

theorem mem_stale {metrics : List Metric} {w : Worker} :
    w ∈ stale metrics ↔ ∃ m ∈ metrics, m.worker = w ∧ m.isMeasurable = false := by
  unfold stale
  rw [List.mem_map]
  constructor
  · rintro ⟨m, hm, rfl⟩
    rw [List.mem_filter] at hm
    exact ⟨m, hm.1, rfl, by simpa using hm.2⟩
  · rintro ⟨m, hm, rfl, hno⟩
    exact ⟨m, List.mem_filter.mpr ⟨hm, by simp [hno]⟩, rfl⟩

variable (machine : Machine) (now : Instant) {platform : Platform} (during : σ → σ)
  (order : List Worker) (store : σ)

theorem store_ofSnapshot :
    (ofSnapshot machine now platform during order store).store =
      (prune (stale (ofSnapshot machine now platform during order store).metrics)
        (if platform.supportsAccounting then during store else store)).2 := by
  simp only [ofSnapshot, Survey.isSome_take]

theorem removed_ofSnapshot :
    (ofSnapshot machine now platform during order store).removed =
      (prune (stale (ofSnapshot machine now platform during order store).metrics)
        (if platform.supportsAccounting then during store else store)).1 := by
  simp only [ofSnapshot, Survey.isSome_take]

variable [LawfulStore σ]

/-- A cycle removes from what the others left exactly what it lists as stale. -/
theorem get?_ofSnapshot (supported : platform.supportsAccounting) (id : WorkerId) (w : Worker) :
    WorkerStore.get? id (ofSnapshot machine now platform during order store).store = some w ↔
      WorkerStore.get? id (during store) = some w ∧
        ¬ ∃ m ∈ (ofSnapshot machine now platform during order store).metrics,
          m.worker = w ∧ m.isMeasurable = false := by
  rw [store_ofSnapshot, if_pos supported, get?_prune, ← mem_stale, Option.filter_eq_some_iff]
  simp

theorem get?_of_mem_metrics {order : List Worker}
    (listed : order.Perm (WorkerStore.snapshot store)) {m : Metric}
    (hm : m ∈ (ofSnapshot machine now platform during order store).metrics) :
    WorkerStore.get? m.worker.id store = some m.worker := by
  rw [← LawfulStore.mem_snapshot, ← listed.mem_iff,
    ← workers_ofSnapshot machine now platform during order store]
  exact List.mem_map_of_mem hm

/-! ## The effect of a cycle -/

/-- A worker registered while memory is sampled stays, unless the cycle listed an equal one and
could not measure it. -/
theorem registered_meanwhile_stays_iff (supported : platform.supportsAccounting)
    {order : List Worker} (listed : order.Perm (WorkerStore.snapshot store))
    (before after : List Operation) (w : Worker)
    (inserted : (register w (Operation.applyAll before store)).1 = true)
    (kept : ∀ op ∈ after, ¬ op.Drops w) :
    let cycle := ofSnapshot machine now platform
      (Operation.applyAll (before ++ .register w :: after)) order store
    (WorkerStore.get? w.id cycle.store = some w ↔
      ¬ ∃ m ∈ cycle.metrics, m.worker = w ∧ m.isMeasurable = false) ∧
    ((∃ m ∈ cycle.metrics, m.worker = w ∧ m.isMeasurable = false) →
      WorkerStore.get? w.id cycle.store = none) ∧
    (WorkerStore.get? w.id store ≠ some w → WorkerStore.get? w.id cycle.store = some w) := by
  intro cycle
  have hleft : WorkerStore.get? w.id
      (Operation.applyAll (before ++ .register w :: after) store) = some w := by
    rw [Operation.applyAll_append, Operation.applyAll_cons]
    exact Operation.get?_applyAll (get?_register_self inserted) kept
  have heffect := get?_ofSnapshot machine now
    (Operation.applyAll (before ++ .register w :: after)) order store supported
  refine ⟨?_, ?_, ?_⟩
  · exact (heffect w.id w).trans (and_iff_right hleft)
  · intro hlisted
    rw [Option.eq_none_iff_forall_ne_some]
    intro v hv
    obtain ⟨hv, hnot⟩ := (heffect w.id v).mp hv
    rw [hleft] at hv
    obtain rfl := Option.some.inj hv
    exact hnot hlisted
  · intro hnew
    refine (heffect _ _).mpr ⟨hleft, ?_⟩
    rintro ⟨m, hm, rfl, -⟩
    exact hnew (get?_of_mem_metrics machine now _ store listed hm)

/-- A worker that comes in the place of one that was cleared stays. -/
theorem registered_meanwhile_stays_new :
    let old : Worker := { id := 1, pid := 100 }
    let new : Worker := { id := 1, pid := 101 }
    let store : ShardedStore := (register old WorkerStore.empty).2
    (register new (Operation.applyAll [.clear] store)).1 = true ∧
    WorkerStore.get? new.id (ofSnapshot (.still ⟨[]⟩ ∅) .epoch .linux
      (Operation.applyAll ([.clear] ++ .register new :: [.prune [old]])) [old] store).store =
      some new := by
  intro old new store
  have supported : Platform.linux.supportsAccounting = true := rfl
  have listed : [old].Perm (WorkerStore.snapshot store) := by decide
  have inserted : (register new (Operation.applyAll [.clear] store)).1 = true := by decide
  have kept : ∀ op ∈ [Operation.prune [old]], ¬ op.Drops new := by
    rw [List.forall_mem_singleton]
    change new ∉ [old]
    decide
  obtain ⟨-, -, hnew⟩ :=
    registered_meanwhile_stays_iff (.still ⟨[]⟩ ∅) .epoch store supported listed
      [.clear] [.prune [old]] new inserted kept
  exact ⟨inserted, hnew (by decide)⟩

/-- A worker that is cleared and registered again with the same fields goes with its old entry. -/
theorem registered_again_alike_goes :
    let w : Worker := { id := 1, pid := 100 }
    let ops : List Operation := [.clear, .register w]
    let sharded := (register w (WorkerStore.empty : ShardedStore)).2
    let locked := (register w (WorkerStore.empty : LockedStore)).2
    (register w (Operation.applyAll [.clear] sharded)).1 = true ∧
    WorkerStore.get? w.id (Operation.applyAll ops sharded) = some w ∧
    WorkerStore.get? w.id
      (run (.still ⟨[]⟩ ∅) .epoch .linux (Operation.applyAll ops) sharded).store = none ∧
    (register w (Operation.applyAll [.clear] locked)).1 = true ∧
    WorkerStore.get? w.id (Operation.applyAll ops locked) = some w ∧
    WorkerStore.get? w.id
      (run (.still ⟨[]⟩ ∅) .epoch .linux (Operation.applyAll ops) locked).store = none := by
  decide

end WorkerMemory.Cycle
