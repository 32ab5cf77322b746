import WorkerMemory.CommandLine.Run
import WorkerMemory.Proofs.CommandLine.Session
import WorkerMemory.Proofs.Metric.Json
import WorkerMemory.Proofs.Registry.Locked
import WorkerMemory.Proofs.Registry.Sharded
import WorkerMemory.Proofs.Table

/-! # One collection from start to end

Whatever is given, found and sampled: the first worker of each id is reported, once.
-/

namespace WorkerMemory.CommandLine

open Text Session

/-- Metrics of the first worker given for each id, from one survey of all of them. -/
structure Surveyed (specs : List WorkerSpec) (scene : Scene) (metrics : List Metric) : Prop where
  nodup_ids : (metrics.map (·.worker.id)).Nodup
  /-- In particular, the ids are those that are given. -/
  mem_workers (w : Worker) : w ∈ metrics.map (·.worker) ↔
    ∃ spec, specs.find? (·.id == w.id) = some spec ∧
      w = { id := spec.id, pid := spec.pid, mnemonic := spec.mnemonic }
  measurable : ∀ m ∈ metrics, m.isMeasurable = m.stat.isSome
  /-- The memory of all processes that the worker's own has, if one of them was sampled. -/
  stat : ∀ m ∈ metrics,
    let owners := scene.machine.resolve (metrics.map (·.worker.pid))
    let owned := ownedBy (owners[·]?) m.worker.pid
      (scene.machine.sample owners.keys).memory.toList
    m.stat = if Platform.current.supportsAccounting ∧ owned ≠ []
      then some { kb := saturating (sumKb owned), observedAt := scene.now } else none

variable {σ : Type} [WorkerStore σ] [LawfulStore σ]

variable (σ) in
theorem surveyed_begin (i : Invocation) (scene : Scene) :
    Surveyed i.workers scene (Cycle.alone scene.machine scene.now .current
      (begin i (WorkerStore.empty : σ)).store).metrics := by
  let store := (begin i (WorkerStore.empty : σ)).store
  let metrics := (Cycle.alone scene.machine scene.now .current store).metrics
  have hworkers : metrics.map (·.worker) = WorkerStore.snapshot store :=
    Cycle.workers_ofSnapshot _ _ _ _ _ _
  have hmap {α : Type} (f : Worker → α) :
      metrics.map (f ·.worker) = (WorkerStore.snapshot store).map f := by
    rw [← hworkers, List.map_map]
    rfl
  have hmetric : ∀ m ∈ metrics, m = Survey.metric (Survey.take scene.machine scene.now .current
      (metrics.map (·.worker.pid))) m.worker := by
    intro m hm
    obtain ⟨w, -, rfl⟩ := List.mem_map.mp hm
    rw [hmap, Survey.worker_metric]
  constructor
  · rw [hmap]
    exact LawfulStore.nodup_snapshot store
  · intro w
    have hget : WorkerStore.get? w.id store =
        (i.workers.find? (·.id == w.id)).map (·.toWorker) := get?_foldl_register i.workers w.id
    rw [hworkers, LawfulStore.mem_snapshot, hget, Option.map_eq_some_iff]
    simp only [WorkerSpec.toWorker, eq_comm]
  · intro m hm
    rw [hmetric m hm, Survey.metric_eq]
  · intro m hm
    have hstat : m.stat = (Survey.take scene.machine scene.now .current
        (metrics.map (·.worker.pid))).bind (·.stats[m.worker.pid]?) := by
      conv_lhs => rw [hmetric m hm, Survey.metric_eq]
    rw [hstat, Survey.stat_take]

theorem Surveyed.ne_nil {specs : List WorkerSpec} {scene : Scene} {metrics : List Metric}
    (h : Surveyed specs scene metrics) (hne : specs ≠ []) : metrics ≠ [] := by
  obtain ⟨spec, specs, rfl⟩ := List.exists_cons_of_ne_nil hne
  have hfind : (spec :: specs).find? (·.id == spec.id) = some spec :=
    List.find?_cons_of_pos (beq_self_eq_true spec.id)
  have hfirst : spec.toWorker ∈ metrics.map (·.worker) :=
    (h.mem_workers spec.toWorker).mpr ⟨spec, hfind, rfl⟩
  rintro rfl
  contradiction

theorem Surveyed.filter_isMeasurable {specs : List WorkerSpec} {scene : Scene}
    {metrics : List Metric} (h : Surveyed specs scene metrics) :
    metrics.filter (!·.isMeasurable) = metrics.filter (·.stat.isNone) := by
  apply List.filter_congr
  intro m hm
  rw [h.measurable m hm, Option.not_isSome]

/-! ## One run -/

theorem told_run (i : Invocation) (collects : i.command = .collect) (scene : Scene)
    (scenes : List Scene) :
    ∃ metrics, Surveyed i.workers scene metrics ∧
      let told := (Session.run i (scene :: scenes) (WorkerStore.empty : σ)).told
      outputs told = [if i.json then Metric.jsonLines metrics else Table.format metrics] ∧
      notices told = (repeated i.workers).map (takenNotice ·.id) ++
        (metrics.filter (·.stat.isNone)).map (droppedNotice ·.worker) := by
  have hsurveyed := surveyed_begin σ i scene
  refine ⟨_, hsurveyed, ?_, ?_⟩
  · rw [run_collect collects, outputs_shutDown, outputs_cycle, outputs_begin, List.nil_append]
  · rw [run_collect collects, notices_shutDown, notices_cycle, hsurveyed.filter_isMeasurable]
    congr 1
    exact notices_foldl_register i.workers

theorem told_session (backend : Backend) (i : Invocation) (collects : i.command = .collect)
    (scene : Scene) (scenes : List Scene) :
    ∃ metrics, Surveyed i.workers scene metrics ∧
      let told := (session backend i (scene :: scenes)).1
      outputs told = [if i.json then Metric.jsonLines metrics else Table.format metrics] ∧
      notices told = (repeated i.workers).map (takenNotice ·.id) ++
        (metrics.filter (·.stat.isNone)).map (droppedNotice ·.worker) := by
  cases backend with
  | sharded => exact told_run i collects scene scenes
  | locked => exact told_run i collects scene scenes

/-! ## The program -/

theorem filterMap_letsThrough (setup : Setup) {pick : Told → Option String}
    (hpick : ∀ e, pick (.event e) = none) (told : List Told) :
    (told.filter setup.letsThrough).filterMap pick = told.filterMap pick := by
  rw [List.filterMap_filter]
  congr 1
  funext item
  cases item with
  | event e => rw [hpick, ite_self]
  | output | notice => rfl

/-- One report goes to standard output for each id that is given, in lines of JSON or in the rows of
a table. Specifications of a taken id and workers without a sample are told of, and nothing else. -/
theorem start_collect {around : Surroundings} {i : Invocation} {setup : Setup} {scene : Scene}
    {scenes : List Scene} (prepared : Setup.prepare around i = .ok setup)
    (collects : i.command = .collect) (given : i.workers ≠ [])
    (found : around.scenes setup.settings.program = scene :: scenes) :
    ∃ outcome metrics text, start around i = .ok outcome ∧ outcome.status = 0 ∧
      Surveyed i.workers scene metrics ∧ outputs outcome.told = [text] ∧
      (if i.json then Report.Lists text metrics else Table.Lists text metrics) ∧
      notices outcome.told = (repeated i.workers).map (takenNotice ·.id) ++
        (metrics.filter (·.stat.isNone)).map (droppedNotice ·.worker) := by
  obtain ⟨metrics, hsurveyed, houtputs, hnotices⟩ :=
    told_session setup.backend i collects scene scenes
  have hne := hsurveyed.ne_nil given
  rw [← found] at houtputs hnotices
  let cycles := session setup.backend i (around.scenes setup.settings.program)
  let told := (setup.events around).map Told.event ++ cycles.1
  have hstart : start around i = .ok {
      status := 0, told := told.filter setup.letsThrough, asked := cycles.2
      log := setup.log } := by
    rw [start, prepared]
    rfl
  have hout : outputs (told.filter setup.letsThrough) = outputs told :=
    filterMap_letsThrough setup (fun _ => rfl) told
  have herr : notices (told.filter setup.letsThrough) = notices told :=
    filterMap_letsThrough setup (fun _ => rfl) told
  refine ⟨_, metrics, if i.json then Metric.jsonLines metrics else Table.format metrics, hstart,
    rfl, hsurveyed, ?_, ?_, ?_⟩
  · rw [hout, outputs_append, outputs_map_event, List.nil_append, houtputs]
  · cases i.json with
    | true => exact Metric.lists_jsonLines hne hsurveyed.measurable
    | false => exact Table.lists_format hne hsurveyed.nodup_ids
  · rw [herr, notices_append, notices_map_event, List.nil_append, hnotices]

/-- Worker 7 is given three times, and worker 3 has no process. -/
theorem start_collect_repeated :
    let specs : List WorkerSpec :=
      [⟨7, 40, "Javac"⟩, ⟨3, 0, ""⟩, ⟨7, 41, "Scalac"⟩, ⟨7, 40, "Javac"⟩]
    let i : Invocation := {
      config := none, logLevel := none, command := .collect, workers := specs, json := true
      interval := none, cycles := none }
    let machine : Machine := {
      resolve := fun _ => (∅ : Ownership).insert 40 40
      sample := fun _ => { memory := (∅ : Samples).insert 40 5 } }
    let scene : Scene := ⟨machine, .epoch⟩
    let around : Surroundings := {
      files := [], environment := [("WORKER_METRICS_STORAGE", "mutex")]
      hasProgram := fun _ => true, scenes := fun _ => [scene] }
    let setup : Setup := {
      settings := { storage := "mutex" }, backend := .locked, filter := .standard, log := none }
    Setup.prepare around i = .ok setup ∧ i.command = .collect ∧ i.workers ≠ [] ∧
      around.scenes setup.settings.program = [scene] ∧
    ∃ outcome metrics text, start around i = .ok outcome ∧ Surveyed specs scene metrics ∧
      outputs outcome.told = [text] ∧
      (∃ line ∈ splitOn '\n' text.toList, ∃ r, Report.ofJson (String.ofList line) = .ok r ∧
        r.worker = { id := 7, pid := 40, mnemonic := "Javac" } ∧ r.residentKb = some 5) ∧
      (∃ line ∈ splitOn '\n' text.toList, ∃ r, Report.ofJson (String.ofList line) = .ok r ∧
        r.worker = { id := 3, pid := 0 } ∧ r.measurable = false) ∧
      "✗ worker 3 (pid 0) could not be measured, dropped" ∈ notices outcome.told ∧
      notices outcome.told =
        ["warning: worker 7 listed twice, keeping the first process id",
          "warning: worker 7 listed twice, keeping the first process id"] ++
          (metrics.filter (·.stat.isNone)).map (droppedNotice ·.worker) := by
  intro specs i machine scene around setup
  have prepared : Setup.prepare around i = .ok setup := rfl
  have given : i.workers ≠ [] := List.cons_ne_nil _ _
  have found : around.scenes setup.settings.program = [scene] := rfl
  obtain ⟨outcome, metrics, text, hstart, -, hsurveyed, houtputs, hlists, hnotices⟩ :=
    start_collect prepared rfl given found
  have hline (spec : WorkerSpec) (first : specs.find? (·.id == spec.id) = some spec) :
      ∃ m ∈ metrics, m.worker = spec.toWorker ∧ ∃ line ∈ splitOn '\n' text.toList,
        ∃ r, Report.ofJson (String.ofList line) = .ok r ∧ r.Tells m.worker m.stat := by
    obtain ⟨m, hm, hworker⟩ :=
      List.mem_map.mp ((hsurveyed.mem_workers spec.toWorker).mpr ⟨spec, first, rfl⟩)
    exact ⟨m, hm, hworker, Report.Lists.exists_line hlists hm⟩
  refine ⟨prepared, rfl, given, found, outcome, metrics, text, hstart, hsurveyed, houtputs, ?_,
    and_assoc.mp ⟨?_, hnotices⟩⟩
  · obtain ⟨m, hm, hworker, line, hline, r, hread, htells⟩ := hline ⟨7, 40, "Javac"⟩ rfl
    have howned : ownedBy (((∅ : Ownership).insert 40 40)[·]?) 40
        ((∅ : Samples).insert 40 5).toList = [(40, 5)] := by decide +kernel
    have hstat := hsurveyed.stat m hm
    simp only [hworker, WorkerSpec.toWorker, scene, machine, howned] at hstat
    refine ⟨line, hline, r, hread, htells.worker.trans hworker, ?_⟩
    rw [htells.kb, hstat]
    rfl
  · obtain ⟨m, hm, hworker, line, hline, r, hread, htells⟩ := hline ⟨3, 0, ""⟩ rfl
    have howned : ownedBy (((∅ : Ownership).insert 40 40)[·]?) 0
        ((∅ : Samples).insert 40 5).toList = [] := by decide +kernel
    have hstat : m.stat = none := by
      rw [hsurveyed.stat m hm]
      simp [hworker, WorkerSpec.toWorker, scene, machine, howned]
    refine ⟨⟨line, hline, r, hread, htells.worker.trans hworker, ?_⟩, ?_⟩
    · rw [htells.measurable, hstat]
      rfl
    · have hdropped : m ∈ metrics.filter (·.stat.isNone) :=
        List.mem_filter.mpr ⟨hm, by rw [hstat]; rfl⟩
      rw [hnotices]
      apply List.mem_append_right
      exact List.mem_map.mpr ⟨m, hdropped, by rw [hworker]; decide⟩

end WorkerMemory.CommandLine
