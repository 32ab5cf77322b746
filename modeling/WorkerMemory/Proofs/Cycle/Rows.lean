import WorkerMemory.Proofs.Cycle.Asked
import WorkerMemory.Proofs.Cycle.Figure

/-! # Runs of `ps` that no worker tells apart

A cycle takes from the output of `ps` the last row of each process that a worker owns, and nothing
else.
-/

namespace WorkerMemory

open Utf8 (lineFeed)

theorem Sampler.getElem?_memory (sampler : Sampler) (status : Nat) (output : List UInt8)
    (pids : List Pid) (p : Pid) :
    (sampler.sample (fun _ => .finished status output) pids).memory[p]? =
      if (Request.on sampler.platform pids).isSome then Row.lastKb? (Row.afterFirst output) p
      else none := by
  cases h : Request.on sampler.platform pids with
  | none =>
    rw [sample_of_none h]
    rfl
  | some args => exact (shows_sample (fun _ => .finished status output) h).2 p

/-! ## Surveys of any machine -/

namespace Survey

theorem kb?_take_congr {machine machine' : Machine} {now now' : Instant} {platform : Platform}
    {roots : List Pid} {root : Pid} (resolved : machine'.resolve = machine.resolve)
    (same : ∀ p : Pid, (machine.resolve roots)[p]? = some root →
      (machine.sample (machine.resolve roots).keys).memory[p]? =
        (machine'.sample (machine.resolve roots).keys).memory[p]?) :
    kb? (take machine now platform roots) root = kb? (take machine' now' platform roots) root := by
  have howned : ownedBy ((machine.resolve roots)[·]?) root
      (machine.sample (machine.resolve roots).keys).memory.toList =
        ownedBy ((machine.resolve roots)[·]?) root
          (machine'.sample (machine.resolve roots).keys).memory.toList :=
    ownedBy_toList_congr same
  rw [kb?_take, kb?_take, resolved, howned]

end Survey

namespace Cycle

variable {σ : Type}

/-- The same report but for the times, and the same registry. -/
structure Alike (c c' : Cycle σ) : Prop where
  figures : c.metrics.map (·.figure) = c'.metrics.map (·.figure)
  measurable : c.metrics.map (·.isMeasurable) = c'.metrics.map (·.isMeasurable)
  removed : c.removed = c'.removed
  store : c.store = c'.store

variable [WorkerStore σ] {machine machine' : Machine} {now now' : Instant} {platform : Platform}
  {during : σ → σ} {order : List Worker} {store : σ}

theorem alike_of_kb? (same : ∀ w ∈ order,
    Survey.kb? (Survey.take machine now platform (order.map (·.pid))) w.pid =
      Survey.kb? (Survey.take machine' now' platform (order.map (·.pid))) w.pid) :
    Alike (ofSnapshot machine now platform during order store)
      (ofSnapshot machine' now' platform during order store) := by
  have hstale : stale (ofSnapshot machine now platform during order store).metrics =
      stale (ofSnapshot machine' now' platform during order store).metrics := by
    rw [stale_ofSnapshot, stale_ofSnapshot]
    exact List.filter_congr fun w hw => by rw [same w hw]
  refine ⟨?_, ?_, ?_, ?_⟩
  · rw [figures_ofSnapshot, figures_ofSnapshot]
    exact List.map_congr_left fun w hw => by rw [same w hw]
  · rw [metrics_ofSnapshot, metrics_ofSnapshot, List.map_map, List.map_map]
    apply List.map_congr_left
    intro w hw
    simp only [Function.comp_apply, Survey.isMeasurable_metric, same w hw]
  · rw [removed_ofSnapshot, removed_ofSnapshot, hstale]
  · rw [store_ofSnapshot, store_ofSnapshot, hstale]

/-! ## Two runs of `ps` -/

variable [LawfulStore σ] {table : ProcessTable} {sampler : Sampler} {status status' : Nat}
  {output output' : List UInt8} {reorder reorder' : List Pid → List Pid}

theorem alike_of_rows (anyOrder : ∀ pids, (reorder pids).Perm pids)
    (anyOrder' : ∀ pids, (reorder' pids).Perm pids)
    (listed : order.Perm (WorkerStore.snapshot store))
    (same : ∀ p, Owned table store p →
      Row.lastKb? (Row.afterFirst output) p = Row.lastKb? (Row.afterFirst output') p) :
    Alike
      (ofSnapshot (.sampledBy table sampler (fun _ => .finished status output) reorder) now platform
        during order store)
      (ofSnapshot (.sampledBy table sampler (fun _ => .finished status' output') reorder') now'
        platform during order store) := by
  apply alike_of_kb?
  intro w _
  refine Survey.kb?_take_congr rfl fun p howner => ?_
  have howned : Owned table store p := by
    rw [← mem_reorder_iff anyOrder listed, (anyOrder _).mem_iff, Std.TreeMap.mem_keys,
      Std.TreeMap.mem_iff_isSome_getElem?]
    exact Option.isSome_of_eq_some howner
  have hasked : Request.on sampler.platform (reorder (table.owners (order.map (·.pid))).keys) =
      Request.on sampler.platform (reorder' (table.owners (order.map (·.pid))).keys) := by
    apply Request.on_congr
    intro q _
    rw [(anyOrder _).mem_iff, (anyOrder' _).mem_iff]
  simp only [Machine.sampledBy, Sampler.getElem?_memory]
  rw [hasked, same p howned]

/-- The last row of each process that a worker owns tells all there is to a run of `ps`. A line that
is damaged or cannot be read, a row of a foreign process and a row that a later one replaces may
come or go, rows of different processes may change places, and the status is of no account. -/
theorem last_rows_count (table : ProcessTable) (sampler : Sampler) (platform : Platform)
    (during : σ → σ) (now now' : Instant) (status status' : Nat)
    (anyOrder : ∀ pids, (reorder pids).Perm pids) (anyOrder' : ∀ pids, (reorder' pids).Perm pids)
    (listed : order.Perm (WorkerStore.snapshot store)) :
    let one (output : List UInt8) :=
      ofSnapshot (.sampledBy table sampler (fun _ => .finished status output) reorder) now platform
        during order store
    let other (output : List UInt8) :=
      ofSnapshot (.sampledBy table sampler (fun _ => .finished status' output) reorder') now'
        platform during order store
    (∀ output output', (∀ p, Owned table store p →
        Row.lastKb? (Row.afterFirst output) p = Row.lastKb? (Row.afterFirst output') p) →
      Alike (one output) (other output')) ∧
    (∀ start line rest, lineFeed ∉ line →
      Utf8.replacement ∈ Utf8.decodeLossy line ∨ ¬ Row.Counts (Owned table store) line rest →
      Alike (one (start ++ lineFeed :: (line ++ lineFeed :: rest)))
        (other (start ++ lineFeed :: rest))) ∧
    ∀ start line line' rest, lineFeed ∉ line → lineFeed ∉ line' →
      (∀ row ∈ Row.ofBytes? line, ∀ row' ∈ Row.ofBytes? line', row.1 ≠ row'.1) →
      Alike (one (start ++ lineFeed :: (line ++ lineFeed :: (line' ++ lineFeed :: rest))))
        (other (start ++ lineFeed :: (line' ++ lineFeed :: (line ++ lineFeed :: rest)))) := by
  intro one other
  refine ⟨fun output output' => alike_of_rows anyOrder anyOrder' listed, ?_, ?_⟩
  · intro start line rest single idle
    have hidle : ¬ Row.Counts (Owned table store) line rest := by
      obtain damaged | idle := idle
      · rintro ⟨p, kb, hrow, -⟩
        rw [Row.ofBytes?_of_damaged damaged] at hrow
        contradiction
      · exact idle
    exact alike_of_rows anyOrder anyOrder' listed fun p => Row.lastKb?_without single hidle start
  · intro start line line' rest single single' apart
    exact alike_of_rows anyOrder anyOrder' listed fun p _ =>
      Row.lastKb?_swapped single single' apart start rest p

/-- An earlier row of process 10, a foreign process, garbage and a byte that is no UTF-8 make no
difference, and neither does the order. -/
theorem last_rows_count_in_noise :
    let table : ProcessTable := ⟨[⟨10, none⟩, ⟨11, some 10⟩, ⟨12, none⟩]⟩
    let order : List Worker := [{ id := 1, pid := 10 }, { id := 2, pid := 12 }]
    let store := Registry.Operation.applyAll (order.map .register) (WorkerStore.empty : LockedStore)
    let output := "PID RSS\n10 300\n11 20\n".toUTF8.toList
    let output' := "PID RSS\n10 1\n99 7\n12\n11 20\r\n".toUTF8.toList ++ 0xFF ::
      "10 5\n  10 300".toUTF8.toList
    let cycle (status : Nat) (output : List UInt8) :=
      ofSnapshot (.sampledBy table {} (fun _ => .finished status output) List.reverse) .epoch
        .linux id order store
    order.Perm (WorkerStore.snapshot store) ∧
    Row.lastKb? (Row.afterFirst output') 10 = some 300 ∧
    Row.lastKb? (Row.afterFirst output') 12 = none ∧ Alike (cycle 0 output) (cycle 1 output') := by
  intro table order store output output' cycle
  have listed : order.Perm (WorkerStore.snapshot store) := by decide +kernel
  have anyOrder (pids : List Pid) : (List.reverse pids).Perm pids := List.reverse_perm pids
  have hrows : (table.owners (order.map (·.pid))).keys.map (Row.lastKb? (Row.afterFirst output)) =
      (table.owners (order.map (·.pid))).keys.map (Row.lastKb? (Row.afterFirst output')) := by
    decide +kernel
  refine ⟨listed, by decide +kernel, by decide +kernel, ?_⟩
  refine (last_rows_count table {} .linux id .epoch .epoch 0 1 anyOrder anyOrder listed).1 output
    output' fun p howned => List.map_inj_left.mp hrows p ?_
  rwa [← mem_reorder_iff anyOrder listed, (anyOrder _).mem_iff] at howned

end Cycle

end WorkerMemory
