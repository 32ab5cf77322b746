import Mathlib.Data.List.Induction
import WorkerMemory.CommandLine.Session
import WorkerMemory.Proofs.Cycle.Metrics

/-! # What a session tells

Texts and notices step by step: while workers are registered, in a cycle and at the end.
-/

namespace WorkerMemory.CommandLine

/-! ## What is told -/

/-- The texts on standard output. -/
def outputs (told : List Told) : List String :=
  told.filterMap fun
    | .output text => some text
    | .notice _ | .event _ => none

/-- The lines on standard error that are no events. -/
def notices (told : List Told) : List String :=
  told.filterMap fun
    | .notice line => some line
    | .output _ | .event _ => none

@[simp]
theorem outputs_append (told told' : List Told) :
    outputs (told ++ told') = outputs told ++ outputs told' := List.filterMap_append

@[simp]
theorem notices_append (told told' : List Told) :
    notices (told ++ told') = notices told ++ notices told' := List.filterMap_append

@[simp]
theorem outputs_map_event (events : List Log.Event) : outputs (events.map Told.event) = [] := by
  simp [outputs]

@[simp]
theorem notices_map_event (events : List Log.Event) : notices (events.map Told.event) = [] := by
  simp [notices]

namespace Session

variable {σ : Type} [WorkerStore σ]

/-! ## Registering -/

theorem outputs_doubts (w : Worker) : outputs (doubts w) = [] := by
  unfold doubts
  split <;> rfl

theorem notices_doubts (w : Worker) : notices (doubts w) = [] := by
  unfold doubts
  split <;> rfl

theorem register_eq (s : Session σ) (spec : WorkerSpec) :
    s.register spec =
      { s with store := (Registry.register spec.toWorker s.store).2 }.tell
        (doubts spec.toWorker ++
          if (Registry.register spec.toWorker s.store).1 then [] else
            [Told.event (Registry.takenEvent spec.id), Told.notice (takenNotice spec.id)]) := rfl

theorem outputs_register (s : Session σ) (spec : WorkerSpec) :
    outputs (s.register spec).told = outputs s.told := by
  rw [register_eq]
  simp only [tell, outputs_append, outputs_doubts, List.nil_append]
  split <;> exact List.append_nil _

theorem outputs_begin (i : Invocation) (store : σ) : outputs (begin i store).told = [] := by
  unfold begin
  induction i.workers using List.reverseRecOn with
  | nil => rfl
  | append_singleton specs spec ih => rw [List.foldl_concat, outputs_register, ih]

/-! ## Cycles and the end -/

theorem outputs_cycle (asJson : Bool) (s : Session σ) (scene : Scene) :
    outputs (s.cycle asJson scene).told = outputs s.told ++
      let metrics := (Cycle.alone scene.machine scene.now .current s.store).metrics
      [if asJson then Metric.jsonLines metrics else Table.format metrics] := by
  simp only [cycle, tell, report, outputs_append, outputs_map_event, List.nil_append]
  simp [outputs]

theorem notices_cycle (asJson : Bool) (s : Session σ) (scene : Scene) :
    notices (s.cycle asJson scene).told = notices s.told ++
      ((Cycle.alone scene.machine scene.now .current s.store).metrics.filter
        (!·.isMeasurable)).map (droppedNotice ·.worker) := by
  simp only [cycle, tell, report, notices_append, notices_map_event, List.nil_append]
  simp [notices]

theorem outputs_shutDown (s : Session σ) : outputs s.shutDown.told = outputs s.told :=
  (outputs_append _ _).trans (List.append_nil _)

theorem notices_shutDown (s : Session σ) : notices s.shutDown.told = notices s.told :=
  (notices_append _ _).trans (List.append_nil _)

theorem run_collect {i : Invocation} (collects : i.command = .collect) (scene : Scene)
    (scenes : List Scene) (store : σ) :
    run i (scene :: scenes) store = ((begin i store).cycle i.json scene).shutDown := by
  unfold run
  rw [collects]

/-! ## Registering with a lawful store -/

variable [LawfulStore σ]

theorem notices_register (s : Session σ) (spec : WorkerSpec) :
    notices (s.register spec).told = notices s.told ++
      if (WorkerStore.get? spec.id s.store).isSome then [takenNotice spec.id] else [] := by
  have hnew : (Registry.register spec.toWorker s.store).1 =
      (WorkerStore.get? spec.id s.store).isNone := Registry.fst_register _ _
  rw [register_eq, hnew]
  simp only [tell, notices_append, notices_doubts, List.nil_append]
  cases WorkerStore.get? spec.id s.store <;> rfl

theorem get?_register (s : Session σ) (spec : WorkerSpec) (id : WorkerId) :
    WorkerStore.get? id (s.register spec).store =
      (WorkerStore.get? id s.store).or (if id = spec.id then some spec.toWorker else none) :=
  Registry.get?_register spec.toWorker id s.store

/-- The specifications whose id stands in front of them already. -/
def repeated (specs : List WorkerSpec) : List WorkerSpec :=
  (specs.zipIdx.filter fun (spec, i) => (specs.take i).any (·.id == spec.id)).map (·.1)

theorem repeated_concat (specs : List WorkerSpec) (spec : WorkerSpec) :
    repeated (specs ++ [spec]) =
      repeated specs ++ if specs.any (·.id == spec.id) then [spec] else [] := by
  have hbefore : specs.zipIdx.filter
        (fun (spec', i) => ((specs ++ [spec]).take i).any (·.id == spec'.id)) =
      specs.zipIdx.filter (fun (spec', i) => (specs.take i).any (·.id == spec'.id)) := by
    apply List.filter_congr
    rintro ⟨spec', i⟩ hi
    have hle : i ≤ specs.length := Nat.le_of_lt ((List.mem_zipIdx' hi).1)
    simp only [List.take_append_of_le_length hle]
  unfold repeated
  rw [List.zipIdx_append, List.filter_append, List.map_append, hbefore]
  congr 1
  simp only [List.zipIdx_singleton, Nat.zero_add, List.filter_cons, List.filter_nil,
    List.take_left]
  split <;> rfl

theorem get?_foldl_register (specs : List WorkerSpec) (id : WorkerId) :
    WorkerStore.get? id (specs.foldl register { store := (WorkerStore.empty : σ) }).store =
      (specs.find? (·.id == id)).map (·.toWorker) := by
  induction specs using List.reverseRecOn with
  | nil => exact LawfulStore.get?_empty id
  | append_singleton specs spec ih =>
    rw [List.foldl_concat, get?_register, ih, List.find?_append]
    cases h : specs.find? (·.id == id) with
    | some first => rfl
    | none =>
      by_cases hid : id = spec.id
      · simp [hid]
      · simp [hid, Ne.symm hid]

theorem notices_foldl_register (specs : List WorkerSpec) :
    notices (specs.foldl register { store := (WorkerStore.empty : σ) }).told =
      (repeated specs).map (takenNotice ·.id) := by
  induction specs using List.reverseRecOn with
  | nil => rfl
  | append_singleton specs spec ih =>
    rw [List.foldl_concat, notices_register, ih, get?_foldl_register, repeated_concat,
      List.map_append, Option.isSome_map, List.isSome_find?]
    congr 1
    split <;> rfl

end Session

end WorkerMemory.CommandLine
