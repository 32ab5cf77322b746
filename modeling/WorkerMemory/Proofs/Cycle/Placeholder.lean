import WorkerMemory.Proofs.Cycle.Figure

/-! # Workers whose id names no process

Ids up to 0 are placeholders. `ps` is never asked about them, but a process table can list one, and
then it owns what is below it like any other root. Placeholders are left out of account exactly as
long as none of them owns a sampled process.
-/

namespace WorkerMemory.Cycle

open Registry

variable {σ : Type} [WorkerStore σ]

/-- Placeholders are reported without memory and removed, and the other workers are reported as in a
cycle without them. -/
structure IgnoresPlaceholders (cycle without : Cycle σ) : Prop where
  dropped : ∀ m ∈ cycle.metrics, m.worker.pid ≤ 0 →
    m.isMeasurable = false ∧ WorkerStore.get? m.worker.id cycle.store = none
  unnoticed : cycle.metrics.filter (0 < ·.worker.pid) = without.metrics

variable {table : ProcessTable} {memory : Samples} {platform : Platform}

theorem owner_pos_of_ignores {now : Instant} {order : List Worker} {store : σ} {without : Cycle σ}
    (ignores : IgnoresPlaceholders
      (ofSnapshot (.still table memory) now platform id order store) without)
    (supported : platform.supportsAccounting) {sample : Pid × KiB}
    (hsample : sample ∈ memory.toList) {root : Pid}
    (howner : table.owner? (order.map (·.pid)) sample.1 = some root) : 0 < root := by
  obtain ⟨hroot, -⟩ := ProcessTable.owner?_mem howner
  obtain ⟨w, hw, rfl⟩ := List.mem_map.mp hroot
  by_contra hplaceholder
  rw [Int64.not_lt] at hplaceholder
  obtain ⟨hno, -⟩ := ignores.dropped _ (List.mem_map_of_mem hw) (by rwa [Survey.worker_metric])
  -- But who owns a sampled process is measured.
  rw [Survey.isMeasurable_metric] at hno
  have hyes : (Survey.kb? (Survey.take (.still table memory) now platform (order.map (·.pid)))
      w.pid).isSome :=
    Survey.isSome_kb?_iff.mpr ⟨supported, sample, hsample, howner⟩
  rw [hno] at hyes
  contradiction

variable [LawfulStore σ]

theorem ignores_of_owners_pos {now : Instant} {order : List Worker} {store : σ}
    (listed : order.Perm (WorkerStore.snapshot store)) (others : σ)
    (positive : platform.supportsAccounting → ∀ sample ∈ memory.toList,
      ∀ root ∈ table.owner? (order.map (·.pid)) sample.1, 0 < root) :
    IgnoresPlaceholders (ofSnapshot (.still table memory) now platform id order store)
      (ofSnapshot (.still table memory) now platform id (order.filter (0 < ·.pid)) others) where
  dropped := by
    intro m hm hplaceholder
    obtain ⟨w, hw, rfl⟩ := List.mem_map.mp hm
    rw [Survey.worker_metric] at hplaceholder ⊢
    have hno : Survey.kb? (Survey.take (.still table memory) now platform (order.map (·.pid)))
        w.pid = none := by
      rw [← Option.not_isSome_iff_eq_none, Survey.isSome_kb?_iff]
      rintro ⟨supported, sample, hsample, howner⟩
      exact Int64.not_lt.mpr hplaceholder (positive supported sample hsample w.pid howner)
    refine ⟨?_, get?_unmeasured _ now platform listed hw hno⟩
    rw [Survey.isMeasurable_metric, hno]
    rfl
  unnoticed := by
    rw [metrics_ofSnapshot, metrics_ofSnapshot, List.filter_map]
    simp only [Function.comp_def, Survey.worker_metric]
    apply List.map_congr_left
    intro w _
    apply Survey.metric_congr
    apply Survey.kb?_congr
    intro supported sample hsample
    have hroots : (order.filter (0 < ·.pid)).map (·.pid) =
        (order.map (·.pid)).filter (0 < ·) := by
      rw [List.filter_map]
      rfl
    rw [hroots, ProcessTable.owner?_filter]
    intro root howner
    simpa using positive supported sample hsample root howner

/-- Placeholders are left out of account exactly if none of them owns a sampled process, so always
where the table lists none of them. -/
theorem ignores_placeholders_iff (table : ProcessTable) (memory : Samples) (now : Instant)
    (platform : Platform) {order : List Worker} {store : σ}
    (listed : order.Perm (WorkerStore.snapshot store)) :
    let machine := Machine.still table memory
    let named := order.filter (0 < ·.pid)
    let others := (prune (order.filter (·.pid ≤ 0)) store).2
    let cycle := ofSnapshot machine now platform id order store
    let without := ofSnapshot machine now platform id named others
    named.Perm (WorkerStore.snapshot others) ∧
    (IgnoresPlaceholders cycle without ↔
      (platform.supportsAccounting → ∀ sample ∈ memory.toList,
        ∀ root ∈ table.owner? (order.map (·.pid)) sample.1, 0 < root)) ∧
    ((∀ w ∈ order, w.pid ≤ 0 → table.contains w.pid = false) →
      IgnoresPlaceholders cycle without) := by
  intro machine named others cycle without
  have hiff : IgnoresPlaceholders cycle without ↔
      (platform.supportsAccounting → ∀ sample ∈ memory.toList,
        ∀ root ∈ table.owner? (order.map (·.pid)) sample.1, 0 < root) := by
    constructor
    · intro ignores supported sample hsample root
      exact owner_pos_of_ignores ignores supported hsample
    · exact ignores_of_owners_pos listed others
  refine ⟨?_, hiff, ?_⟩
  · refine .trans (.of_eq ?_) (perm_snapshot_prune listed _)
    apply List.filter_congr
    intro w hw
    simp [hw]
  · intro unlisted
    apply hiff.mpr
    intro _ sample _ root howner
    obtain ⟨hroot, hlive, -⟩ := ProcessTable.owner?_mem howner
    obtain ⟨w, hw, rfl⟩ := List.mem_map.mp hroot
    by_contra hplaceholder
    rw [unlisted w hw (Int64.not_lt.mp hplaceholder)] at hlive
    contradiction

/-- A listed placeholder with a sampled child is dropped all the same while a later root above it
owns both. -/
theorem ignores_placeholders_below_root :
    let table : ProcessTable := ⟨[⟨5, none⟩, ⟨0, some 5⟩, ⟨6, some 0⟩]⟩
    let memory : Samples := (∅ : Samples).insert 6 4
    let order : List Worker := [{ id := 1, pid := 0 }, { id := 2, pid := -3 }, { id := 3, pid := 5 }]
    let store := Operation.applyAll (order.map .register) (WorkerStore.empty : LockedStore)
    let others := (prune (order.filter (·.pid ≤ 0)) store).2
    order.Perm (WorkerStore.snapshot store) ∧
    IgnoresPlaceholders (ofSnapshot (.still table memory) .epoch .linux id order store)
      (ofSnapshot (.still table memory) .epoch .linux id (order.filter (0 < ·.pid)) others) := by
  intro table memory order store others
  have listed : order.Perm (WorkerStore.snapshot store) := by decide +kernel
  obtain ⟨-, hiff, -⟩ := ignores_placeholders_iff table memory .epoch .linux listed
  have hmemory : memory.toList = [(6, 4)] := by decide +kernel
  have howner : table.owner? (order.map (·.pid)) 6 = some 5 := by decide +kernel
  refine ⟨listed, hiff.mpr ?_⟩
  intro _ sample hsample root hroot
  rw [hmemory, List.mem_singleton] at hsample
  rw [hsample, howner] at hroot
  rw [← Option.mem_some.mp hroot]
  decide

/-- A placeholder that is listed with a sampled child is measured and stays. If it comes last, the
worker of the child is removed in its place. -/
theorem placeholder_measured :
    let machine := Machine.still ⟨[⟨0, none⟩, ⟨1, some 0⟩]⟩ ((∅ : Samples).insert 1 4)
    let placeholder : Worker := { id := 7, pid := 0 }
    let child : Worker := { id := 8, pid := 1 }
    let sharded := (register placeholder (WorkerStore.empty : ShardedStore)).2
    let locked := (register placeholder (WorkerStore.empty : LockedStore)).2
    let both := (register placeholder (register child (WorkerStore.empty : ShardedStore)).2).2
    (run machine .epoch .linux id sharded).metrics.map (·.figure) = [(placeholder, some 4)] ∧
    WorkerStore.get? 7 (run machine .epoch .linux id sharded).store = some placeholder ∧
    (run machine .epoch .linux id locked).metrics.map (·.figure) = [(placeholder, some 4)] ∧
    WorkerStore.get? 7 (run machine .epoch .linux id locked).store = some placeholder ∧
    (run machine .epoch .linux id both).metrics.map (·.figure) =
      [(child, none), (placeholder, some 4)] ∧
    WorkerStore.get? 8 (run machine .epoch .linux id both).store = none := by
  decide +kernel

end WorkerMemory.Cycle
