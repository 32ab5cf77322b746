import WorkerMemory.Proofs.Cycle.Interference

/-! # The figures of a report

What stays of a report when its time is left out: the memory of each worker, or none. On a machine
that stands still a figure hangs only on who owns the sampled processes.
-/

namespace WorkerMemory

/-- The worker and its memory, without the time. -/
def Metric.figure (m : Metric) : Worker × Option KiB := (m.worker, m.stat.map (·.kb))

namespace Survey

/-- The memory that a survey finds for a root. -/
def kb? (survey : Option Survey) (root : Pid) : Option KiB :=
  (survey.bind (·.stats[root]?)).map (·.kb)

theorem figure_metric (survey : Option Survey) (w : Worker) :
    (metric survey w).figure = (w, kb? survey w.pid) := by
  rw [metric_eq]
  rfl

theorem isMeasurable_metric (survey : Option Survey) (w : Worker) :
    (metric survey w).isMeasurable = (kb? survey w.pid).isSome := by
  rw [metric_eq, kb?, Option.isSome_map]

theorem kb?_take (machine : Machine) (now : Instant) (platform : Platform) (roots : List Pid)
    (root : Pid) :
    kb? (take machine now platform roots) root =
      let owned := ownedBy ((machine.resolve roots)[·]?) root
        (machine.sample (machine.resolve roots).keys).memory.toList
      if platform.supportsAccounting ∧ owned ≠ [] then some (saturating (sumKb owned))
      else none := by
  rw [kb?, stat_take]
  dsimp only
  split <;> rfl

variable {table : ProcessTable} {memory : Samples} {platform : Platform}

theorem kb?_take_still (now : Instant) (roots : List Pid) (root : Pid) :
    kb? (take (.still table memory) now platform roots) root =
      if platform.supportsAccounting ∧ ownedBy (table.owner? roots) root memory.toList ≠ []
      then some (saturating (sumKb (ownedBy (table.owner? roots) root memory.toList)))
      else none := by
  rw [kb?, stat_take_still]
  split <;> rfl

theorem isSome_kb?_iff {now : Instant} {roots : List Pid} {root : Pid} :
    (kb? (take (.still table memory) now platform roots) root).isSome ↔
      platform.supportsAccounting ∧
        ∃ sample ∈ memory.toList, table.owner? roots sample.1 = some root := by
  rw [kb?_take_still, ← ownedBy_ne_nil_iff]
  split <;> simp_all

theorem kb?_congr {now now' : Instant} {roots roots' : List Pid} {root : Pid}
    (same : platform.supportsAccounting → ∀ sample ∈ memory.toList,
      table.owner? roots sample.1 = some root ↔ table.owner? roots' sample.1 = some root) :
    kb? (take (.still table memory) now platform roots) root =
      kb? (take (.still table memory) now' platform roots') root := by
  rw [kb?_take_still, kb?_take_still]
  by_cases supported : platform.supportsAccounting
  · rw [ownedBy_congr (same supported)]
  · simp [supported]

theorem stat_eq_map_kb? (now : Instant) (roots : List Pid) (root : Pid) :
    (take (.still table memory) now platform roots).bind (·.stats[root]?) =
      (kb? (take (.still table memory) now platform roots) root).map
        fun kb => { kb, observedAt := now } := by
  rw [kb?_take_still, stat_take_still]
  split <;> rfl

theorem metric_congr {now : Instant} {roots roots' : List Pid} {w : Worker}
    (same : kb? (take (.still table memory) now platform roots) w.pid =
      kb? (take (.still table memory) now platform roots') w.pid) :
    metric (take (.still table memory) now platform roots) w =
      metric (take (.still table memory) now platform roots') w := by
  rw [metric_eq, metric_eq, stat_eq_map_kb?, stat_eq_map_kb?, same]

end Survey

/-! ## What a cycle leaves on its own -/

namespace Cycle

variable {σ : Type} [WorkerStore σ]

theorem figures_ofSnapshot (machine : Machine) (now : Instant) (platform : Platform)
    (during : σ → σ) (order : List Worker) (store : σ) :
    (ofSnapshot machine now platform during order store).metrics.map (·.figure) =
      order.map fun w =>
        (w, Survey.kb? (Survey.take machine now platform (order.map (·.pid))) w.pid) := by
  rw [metrics_ofSnapshot, List.map_map]
  exact List.map_congr_left fun w _ => Survey.figure_metric _ w

theorem measured_figures_ofSnapshot (machine : Machine) (now : Instant) (platform : Platform)
    (during : σ → σ) (order : List Worker) (store : σ) :
    ((ofSnapshot machine now platform during order store).metrics.filter (·.isMeasurable)).map
        (·.figure) =
      (order.filter fun w =>
        (Survey.kb? (Survey.take machine now platform (order.map (·.pid))) w.pid).isSome).map
          fun w => (w, Survey.kb? (Survey.take machine now platform (order.map (·.pid))) w.pid) := by
  rw [metrics_ofSnapshot, List.filter_map, List.map_map]
  simp only [Function.comp_def, Survey.isMeasurable_metric, Survey.figure_metric]

theorem stale_ofSnapshot (machine : Machine) (now : Instant) (platform : Platform)
    (during : σ → σ) (order : List Worker) (store : σ) :
    stale (ofSnapshot machine now platform during order store).metrics = order.filter fun w =>
      (Survey.kb? (Survey.take machine now platform (order.map (·.pid))) w.pid).isNone := by
  unfold stale
  rw [metrics_ofSnapshot, List.filter_map, List.map_map]
  simp only [Function.comp_def, Survey.isMeasurable_metric, Survey.worker_metric, List.map_id',
    Option.not_isSome]

theorem mem_stale_ofSnapshot {machine : Machine} {now : Instant} {platform : Platform}
    {during : σ → σ} {order : List Worker} {store : σ} {w : Worker} :
    w ∈ stale (ofSnapshot machine now platform during order store).metrics ↔
      w ∈ order ∧
        Survey.kb? (Survey.take machine now platform (order.map (·.pid))) w.pid = none := by
  rw [stale_ofSnapshot, List.mem_filter, Option.isNone_iff_eq_none]

variable [LawfulStore σ]

theorem get?_unmeasured (machine : Machine) (now : Instant) (platform : Platform)
    {order : List Worker} {store : σ} (listed : order.Perm (WorkerStore.snapshot store)) {w : Worker}
    (hw : w ∈ order)
    (hno : Survey.kb? (Survey.take machine now platform (order.map (·.pid))) w.pid = none) :
    WorkerStore.get? w.id (ofSnapshot machine now platform id order store).store = none := by
  have hregistered := LawfulStore.mem_snapshot.mp (listed.mem_iff.mp hw)
  rw [store_ofSnapshot, id, ite_self, Registry.get?_prune, hregistered, Option.filter_some, if_neg]
  simp [mem_stale_ofSnapshot, hw, hno]

theorem snapshot_ofSnapshot (machine : Machine) (now : Instant) (platform : Platform)
    {order : List Worker} {store : σ} (listed : order.Perm (WorkerStore.snapshot store)) :
    (WorkerStore.snapshot (ofSnapshot machine now platform id order store).store).Perm
      (order.filter fun w =>
        (Survey.kb? (Survey.take machine now platform (order.map (·.pid))) w.pid).isSome) := by
  rw [store_ofSnapshot, id, ite_self]
  refine (Registry.perm_snapshot_prune listed _).symm.trans (.of_eq ?_)
  apply List.filter_congr
  intro w hw
  rw [Bool.eq_iff_iff, decide_eq_true_iff, mem_stale_ofSnapshot, Option.isSome_iff_ne_none]
  simp only [hw, true_and, ne_eq]

end Cycle

end WorkerMemory
