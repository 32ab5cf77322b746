import WorkerMemory.Collector
import WorkerMemory.Proofs.Ownership
import WorkerMemory.Proofs.Registry.Lawful
import WorkerMemory.Proofs.Registry.Sharded
import WorkerMemory.Proofs.Usage

/-! # What a cycle reports

One metric for each worker of the snapshot. On a machine that stands still it holds the memory of
the processes that the worker's process owns.
-/

namespace WorkerMemory

/-! ## Metrics of any machine -/

theorem Survey.metric_eq (survey : Option Survey) (w : Worker) :
    metric survey w = {
      worker := w
      stat := survey.bind (·.stats[w.pid]?)
      isMeasurable := (survey.bind (·.stats[w.pid]?)).isSome } := by
  unfold metric
  cases survey.bind (·.stats[w.pid]?) <;> rfl

@[simp]
theorem Survey.worker_metric (survey : Option Survey) (w : Worker) :
    (metric survey w).worker = w := by
  rw [metric_eq]

theorem Survey.isSome_take (machine : Machine) (now : Instant) (platform : Platform)
    (roots : List Pid) :
    (take machine now platform roots).isSome = platform.supportsAccounting := by
  unfold take
  cases platform.supportsAccounting <;> rfl

theorem Survey.stat_take (machine : Machine) (now : Instant) (platform : Platform)
    (roots : List Pid) (root : Pid) :
    (take machine now platform roots).bind (·.stats[root]?) =
      let owned := ownedBy ((machine.resolve roots)[·]?) root
        (machine.sample (machine.resolve roots).keys).memory.toList
      if platform.supportsAccounting ∧ owned ≠ []
      then some { kb := saturating (sumKb owned), observedAt := now } else none := by
  unfold take
  cases platform.supportsAccounting with
  | false => simp
  | true => simp only [if_true, Option.bind_some, getElem?_usage, true_and, ne_eq, ite_not]

namespace Cycle

variable {σ : Type} [WorkerStore σ]

theorem metrics_ofSnapshot (machine : Machine) (now : Instant) (platform : Platform)
    (during : σ → σ) (snapshot : List Worker) (store : σ) :
    (ofSnapshot machine now platform during snapshot store).metrics =
      snapshot.map
        (Survey.metric (Survey.take machine now platform (snapshot.map (·.pid)))) := rfl

theorem workers_ofSnapshot (machine : Machine) (now : Instant) (platform : Platform)
    (during : σ → σ) (snapshot : List Worker) (store : σ) :
    (ofSnapshot machine now platform during snapshot store).metrics.map (·.worker) = snapshot := by
  rw [metrics_ofSnapshot, List.map_map]
  exact List.map_id'' (Survey.worker_metric _) snapshot

theorem nodup_ids_ofSnapshot [LawfulStore σ] (machine : Machine) (now : Instant)
    (platform : Platform) (during : σ → σ) {store : σ} {order : List Worker}
    (listed : order.Perm (WorkerStore.snapshot store)) :
    ((ofSnapshot machine now platform during order store).metrics.map (·.worker.id)).Nodup := by
  let metrics := (ofSnapshot machine now platform during order store).metrics
  have hids : metrics.map (·.worker.id) = order.map (·.id) :=
    calc
      metrics.map (·.worker.id) = (metrics.map (·.worker)).map (·.id) := List.map_map.symm
      _ = order.map (·.id) := by rw [workers_ofSnapshot]
  rw [hids, (listed.map _).nodup_iff]
  exact LawfulStore.nodup_snapshot store

end Cycle

/-! ## A machine that stands still -/

theorem ownedBy_filter_keys (owners : Ownership) (root : Pid) (memory : Samples) :
    ownedBy (owners[·]?) root (memory.filter fun pid _ => owners.keys.contains pid).toList =
      ownedBy (owners[·]?) root memory.toList := by
  -- Whoever has an owner is asked about.
  unfold ownedBy
  rw [Std.TreeMap.toList_filter, List.filter_filter]
  apply List.filter_congr
  rintro ⟨pid, kb⟩ -
  by_cases h : owners[pid]? = some root
  · have hkey : pid ∈ owners.keys :=
      Std.TreeMap.mem_keys.mpr (Std.TreeMap.mem_iff_isSome_getElem?.mpr (by simp [h]))
    simp [h, hkey]
  · simp [h]

theorem stat_take_still (table : ProcessTable) (memory : Samples) (now : Instant)
    (platform : Platform) (roots : List Pid) (root : Pid) :
    (Survey.take (.still table memory) now platform roots).bind (·.stats[root]?) =
      if platform.supportsAccounting ∧ ownedBy (table.owner? roots) root memory.toList ≠ []
      then some {
        kb := saturating (sumKb (ownedBy (table.owner? roots) root memory.toList))
        observedAt := now }
      else none := by
  have howner : ((table.owners roots)[·]?) = table.owner? roots := by
    funext p
    exact table.getElem?_owners roots p
  rw [Survey.stat_take]
  dsimp only [Machine.still]
  rw [ownedBy_filter_keys, howner]

/-! ## The report -/

variable {σ : Type} [WorkerStore σ] [LawfulStore σ]

/-- Each registered worker is reported once and as it is, whatever order they are listed in. It is
measurable exactly if some sampled process belongs to its own, and then with their memory. -/
theorem report_of_still (table : ProcessTable) (memory : Samples) (now : Instant)
    (platform : Platform) (during : σ → σ) (store : σ) (order : List Worker)
    (listed : order.Perm (WorkerStore.snapshot store)) :
    let metrics := (Cycle.ofSnapshot (.still table memory) now platform during order store).metrics
    let owner := table.owner? (order.map (·.pid))
    metrics.map (·.worker) = order ∧
    (metrics.map (·.worker.id)).Nodup ∧
    (∀ w, (∃ m ∈ metrics, m.worker = w) ↔ WorkerStore.get? w.id store = some w) ∧
    ∀ m ∈ metrics,
      m.isMeasurable = m.stat.isSome ∧
      (m.isMeasurable = true ↔ platform.supportsAccounting ∧
        ∃ sample ∈ memory.toList, owner sample.1 = some m.worker.pid) ∧
      ∀ stat, m.stat = some stat →
        stat.kb.toNat = min (UInt64.size - 1) (sumKb (ownedBy owner m.worker.pid memory.toList)) ∧
        stat.observedAt = now := by
  intro metrics owner
  have hworkers : metrics.map (·.worker) = order :=
    Cycle.workers_ofSnapshot _ now platform during order store
  refine ⟨hworkers, ?_, ?_, ?_⟩
  · have hids : metrics.map (·.worker.id) = order.map (·.id) := by
      rw [← hworkers, List.map_map]
      rfl
    rw [hids, (listed.map (·.id)).nodup_iff]
    exact LawfulStore.nodup_snapshot store
  · intro w
    rw [← LawfulStore.mem_snapshot, ← listed.mem_iff, ← hworkers, List.mem_map]
  · intro m hm
    obtain ⟨w, -, rfl⟩ := List.mem_map.mp hm
    rw [Survey.metric_eq, stat_take_still, ← ownedBy_ne_nil_iff]
    split
    · next h =>
      refine ⟨rfl, by simpa using h, ?_⟩
      rintro stat ⟨⟩
      exact ⟨toNat_saturating _ |>.trans (Nat.min_comm ..), rfl⟩
    · next h => exact ⟨rfl, by simpa using h, by simp⟩

set_option maxRecDepth 4000 in
/-- Two workers of one process both get all of its memory, which stops at the largest value. -/
theorem report_of_still_shared :
    let table : ProcessTable := ⟨[⟨10, none⟩, ⟨11, some 10⟩]⟩
    let memory : Samples := ((∅ : Samples).insert 10 0xFFFFFFFFFFFFFFFF).insert 11 1
    let store : ShardedStore :=
      (Registry.register { id := 2, pid := 10 }
        (Registry.register { id := 1, pid := 10 } WorkerStore.empty).2).2
    let order : List Worker := [{ id := 2, pid := 10 }, { id := 1, pid := 10 }]
    order.Perm (WorkerStore.snapshot store) ∧
    ∀ m ∈ (Cycle.ofSnapshot (.still table memory) .epoch .linux id order store).metrics,
      m.isMeasurable = true ∧ ∀ stat, m.stat = some stat → stat.kb.toNat = 0xFFFFFFFFFFFFFFFF := by
  intro table memory store order
  have listed : order.Perm (WorkerStore.snapshot store) := by decide
  obtain ⟨hworkers, -, -, hreport⟩ :=
    report_of_still table memory .epoch .linux id store order listed
  refine ⟨listed, fun m hm => ?_⟩
  obtain ⟨-, hmeasurable, hstat⟩ := hreport m hm
  have hall : ∀ w ∈ order, w.pid = 10 := by decide
  have hpid : m.worker.pid = 10 := hall _ (hworkers ▸ List.mem_map_of_mem hm)
  rw [hpid] at hmeasurable hstat
  have hsum : sumKb (ownedBy (table.owner? (order.map (·.pid))) 10 memory.toList) =
      0x10000000000000000 := by
    decide +kernel
  rw [hsum] at hstat
  exact ⟨hmeasurable.mpr (by decide +kernel), fun stat h => (hstat stat h).1⟩

end WorkerMemory
