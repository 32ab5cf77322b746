import WorkerMemory.Proofs.Cycle.Interference
import WorkerMemory.Proofs.Sampling.Answer
import WorkerMemory.Proofs.Sampling.Request

/-! # What a cycle asks `ps` for

One run of `ps` for all workers, and only if there is a process to ask about.
-/

namespace WorkerMemory

/-- A machine on which `ps` is run. The processes come to the sampler in any order. -/
def Machine.sampledBy (table : ProcessTable) (sampler : Sampler) (ps : Ps)
    (reorder : List Pid → List Pid) : Machine where
  resolve := table.owners
  sample pids := sampler.sample ps (reorder pids)

/-- The process belongs to a registered worker: it is the worker's, which runs, or lies below it. -/
def Owned {σ : Type} [WorkerStore σ] (table : ProcessTable) (store : σ) (p : Pid) : Prop :=
  ∃ w : Worker, WorkerStore.get? w.id store = some w ∧ table.Claims p w.pid

/-! ## The processes asked about -/

theorem ProcessTable.mem_keys_owners {table : ProcessTable} {roots : List Pid} {p : Pid} :
    p ∈ (table.owners roots).keys ↔ ∃ root ∈ roots, table.Claims p root := by
  rw [Std.TreeMap.mem_keys, Std.TreeMap.mem_iff_isSome_getElem?, getElem?_owners, isSome_owner?_iff]

namespace Cycle

variable {σ : Type} [WorkerStore σ] {table : ProcessTable} {sampler : Sampler} {ps ps' : Ps}
  {reorder : List Pid → List Pid} {now : Instant} {platform : Platform} {during : σ → σ}
  {order : List Worker} {store : σ}

theorem asked_ofSnapshot :
    (ofSnapshot (.sampledBy table sampler ps reorder) now platform during order store).asked =
      if platform.supportsAccounting then
        (Request.on sampler.platform (reorder (table.owners (order.map (·.pid))).keys)).toList
      else [] := by
  unfold asked ofSnapshot Survey.take
  cases platform.supportsAccounting with
  | false => rfl
  | true => exact Sampler.asked_sample

theorem length_asked_ofSnapshot :
    (ofSnapshot (.sampledBy table sampler ps reorder) now platform during order store).asked.length
      ≤ 1 := by
  rw [asked_ofSnapshot]
  split
  · exact Option.length_toList_le
  · exact Nat.zero_le 1

theorem mem_asked_ofSnapshot_iff {args : List String} :
    args ∈
        (ofSnapshot (.sampledBy table sampler ps reorder) now platform during order store).asked ↔
      platform.supportsAccounting ∧
        Request.on sampler.platform (reorder (table.owners (order.map (·.pid))).keys) =
          some args := by
  rw [asked_ofSnapshot]
  split <;> simp [*]

theorem shows_ofSnapshot {args : List String}
    (asked : args ∈
      (ofSnapshot (.sampledBy table sampler ps reorder) now platform during order store).asked) :
    ∃ survey,
      (ofSnapshot (.sampledBy table sampler ps reorder) now platform during order store).survey =
        some survey ∧ survey.sampling.Shows sampler.program (ps args) := by
  obtain ⟨supported, hargs⟩ := mem_asked_ofSnapshot_iff.mp asked
  unfold ofSnapshot Survey.take
  rw [if_pos supported]
  exact ⟨_, rfl, Sampler.shows_sample ps hargs⟩

theorem memory_of_unanswered
    (failed : ∀ args ∈
      (ofSnapshot (.sampledBy table sampler ps reorder) now platform during order store).asked,
      ∃ cause, ps args = .failed cause)
    (supported : platform.supportsAccounting) :
    (sampler.sample ps (reorder (table.owners (order.map (·.pid))).keys)).memory = ∅ := by
  cases h : Request.on sampler.platform (reorder (table.owners (order.map (·.pid))).keys) with
  | none => rw [Sampler.sample_of_none h]
  | some args =>
    obtain ⟨cause, hcause⟩ := failed args (mem_asked_ofSnapshot_iff.mpr ⟨supported, h⟩)
    have hshows := Sampler.shows_sample ps h
    rw [hcause] at hshows
    exact hshows.2

theorem stat_of_unanswered
    (failed : ∀ args ∈
      (ofSnapshot (.sampledBy table sampler ps reorder) now platform during order store).asked,
      ∃ cause, ps args = .failed cause) :
    ∀ m ∈ (ofSnapshot (.sampledBy table sampler ps reorder) now platform during order
      store).metrics, m.stat = none := by
  rw [metrics_ofSnapshot, List.forall_mem_map]
  intro w _
  rw [Survey.metric_eq, Survey.stat_take]
  apply if_neg
  rintro ⟨supported, howned⟩
  dsimp only [Machine.sampledBy] at howned
  rw [memory_of_unanswered failed supported] at howned
  exact howned rfl

theorem ofSnapshot_congr
    (same : ∀ args ∈
      (ofSnapshot (.sampledBy table sampler ps reorder) now platform during order store).asked,
      ps' args = ps args) :
    ofSnapshot (.sampledBy table sampler ps' reorder) now platform during order store =
      ofSnapshot (.sampledBy table sampler ps reorder) now platform during order store := by
  have hsurvey : Survey.take (.sampledBy table sampler ps' reorder) now platform
      (order.map (·.pid)) =
        Survey.take (.sampledBy table sampler ps reorder) now platform (order.map (·.pid)) := by
    unfold asked ofSnapshot at same
    unfold Survey.take at same ⊢
    cases hplatform : platform.supportsAccounting with
    | false => rfl
    | true =>
      simp only [hplatform, if_true, Machine.sampledBy] at same ⊢
      rw [Sampler.sample_congr same]
  unfold ofSnapshot
  rw [hsurvey]

variable [LawfulStore σ]

theorem mem_reorder_iff (anyOrder : ∀ pids, (reorder pids).Perm pids)
    (listed : order.Perm (WorkerStore.snapshot store)) {p : Pid} :
    p ∈ reorder (table.owners (order.map (·.pid))).keys ↔ Owned table store p := by
  rw [(anyOrder _).mem_iff, ProcessTable.mem_keys_owners]
  simp only [List.mem_map, exists_exists_and_eq_and, listed.mem_iff, LawfulStore.mem_snapshot,
    Owned]

/-- `ps` is run once if the platform allows it and some process of the workers has a positive id,
and is asked for just these; else it is not run. The cycle hangs on `ps` only through its answer to
that, and the question not on the order in which workers or processes come. -/
theorem asked_once (table : ProcessTable) (sampler : Sampler) (ps : Ps) (now : Instant)
    (platform : Platform) (during : σ → σ) (anyOrder : ∀ pids, (reorder pids).Perm pids)
    (listed : order.Perm (WorkerStore.snapshot store)) :
    let cycle (ps : Ps) (reorder : List Pid → List Pid) (order : List Worker) :=
      ofSnapshot (.sampledBy table sampler ps reorder) now platform during order store
    let asked := (cycle ps reorder order).asked
    asked.length ≤ 1 ∧
    (asked ≠ [] ↔ platform.supportsAccounting ∧ sampler.platform.supportsAccounting ∧
      ∃ p, 0 < p ∧ Owned table store p) ∧
    (∀ args ∈ asked, ∃ list named,
      args = ["-o", "pid,rss", "-p", list] ∧
      (Text.splitOn ',' list.toList).mapM Numeral.int64? = some named ∧
      named.Pairwise (· < ·) ∧ ∀ p, p ∈ named ↔ 0 < p ∧ Owned table store p) ∧
    (∀ args ∈ asked, ∃ survey, (cycle ps reorder order).survey = some survey ∧
      survey.sampling.Shows sampler.program (ps args)) ∧
    ((∀ args ∈ asked, ∃ cause, ps args = .failed cause) →
      ∀ m ∈ (cycle ps reorder order).metrics, m.stat = none) ∧
    (∀ ps', (∀ args ∈ asked, ps' args = ps args) →
      cycle ps' reorder order = cycle ps reorder order) ∧
    ∀ reorder' order', (∀ pids, (reorder' pids).Perm pids) →
      order'.Perm (WorkerStore.snapshot store) → (cycle ps reorder' order').asked = asked := by
  intro cycle asked
  have hasked {args : List String} : args ∈ asked ↔ _ :=
    mem_asked_ofSnapshot_iff.trans (and_congr_right fun _ => Request.on_eq_some_iff)
  have hnamable (p : Pid) :
      p ∈ Request.namable (reorder (table.owners (order.map (·.pid))).keys) ↔
        0 < p ∧ Owned table store p := by
    rw [Request.mem_namable, mem_reorder_iff anyOrder listed]
  refine ⟨length_asked_ofSnapshot, ?_, ?_, fun _ => shows_ofSnapshot, stat_of_unanswered,
    fun ps' => ofSnapshot_congr, ?_⟩
  · simp only [hasked, ← hnamable, ne_eq, List.eq_nil_iff_forall_not_mem, not_forall, not_not,
      exists_and_left, exists_eq, and_true]
  · intro args hargs
    obtain ⟨-, -, hne, rfl⟩ := hasked.mp hargs
    exact ⟨_, _, rfl, Request.read_listed hne, Request.pairwise_namable _, hnamable⟩
  · intro reorder' order' anyOrder' listed'
    unfold asked cycle
    rw [asked_ofSnapshot, asked_ofSnapshot]
    congr 2
    apply Request.on_congr
    intro p _
    rw [mem_reorder_iff anyOrder' listed', mem_reorder_iff anyOrder listed]

/-- Two nested roots and a dead one, and a placeholder in the tree with a child of its own. The run
of `ps` fails. -/
theorem asked_once_of_failed_run :
    let table : ProcessTable := ⟨[⟨10, none⟩, ⟨11, some 10⟩, ⟨-3, some 11⟩, ⟨12, some (-3)⟩]⟩
    let order : List Worker :=
      [{ id := 3, pid := 99 }, { id := 1, pid := 11 }, { id := 2, pid := 10 }]
    let store := Registry.Operation.applyAll (order.map .register) (WorkerStore.empty : LockedStore)
    let cycle := ofSnapshot (.sampledBy table {} (fun _ => .failed .noSuchFile) List.reverse)
      .epoch .linux id order store
    order.Perm (WorkerStore.snapshot store) ∧
    (∃ list named, cycle.asked = [["-o", "pid,rss", "-p", list]] ∧
      (Text.splitOn ',' list.toList).mapM Numeral.int64? = some named ∧
      named.Pairwise (· < ·) ∧ 12 ∈ named ∧ -3 ∉ named) ∧
    (∃ survey, cycle.survey = some survey ∧
      survey.sampling.failure = some (.spawn "ps" .noSuchFile)) ∧
    ∀ m ∈ cycle.metrics, m.stat = none := by
  intro table order store cycle
  have listed : order.Perm (WorkerStore.snapshot store) := by decide +kernel
  have anyOrder (pids : List Pid) : (List.reverse pids).Perm pids := List.reverse_perm pids
  obtain ⟨hlength, hiff, hargs, hshows, hunanswered, -, -⟩ :=
    asked_once table {} (fun _ => .failed .noSuchFile) .epoch .linux id anyOrder listed
  have howned : Owned table store 12 :=
    ⟨{ id := 2, pid := 10 }, by decide +kernel, by decide +kernel⟩
  have hne : cycle.asked ≠ [] := hiff.mpr ⟨rfl, rfl, 12, by decide, howned⟩
  obtain ⟨args, hasked⟩ : ∃ args, cycle.asked = [args] :=
    List.length_eq_one_iff.mp (Nat.le_antisymm hlength (List.length_pos_iff.mpr hne))
  have hmem : args ∈ cycle.asked := by rw [hasked]; exact List.mem_singleton_self args
  obtain ⟨list, named, rfl, hread, hsorted, hnamed⟩ := hargs args hmem
  obtain ⟨survey, hsurvey, hfailure, -⟩ := hshows _ hmem
  refine ⟨listed, ⟨list, named, hasked, hread, hsorted, ?_, ?_⟩, ⟨survey, hsurvey, hfailure⟩,
    hunanswered fun _ _ => ⟨_, rfl⟩⟩
  · exact (hnamed 12).mpr ⟨by decide, howned⟩
  · intro h
    exact absurd ((hnamed (-3)).mp h).1 (by decide)

end Cycle

end WorkerMemory
