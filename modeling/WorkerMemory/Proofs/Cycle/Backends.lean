import Mathlib.Data.List.Forall2
import WorkerMemory.Proofs.Cycle.Clones
import WorkerMemory.Proofs.Registry.Handles

/-! # The choice of the store makes no difference

Both stores answer every request as one partial map does, through any handles. So a collector tells
the same on either of them, given the same machine and the same order of roots.
-/

namespace WorkerMemory

open Registry

/-! ## Registries with the same workers -/

section

variable {σ τ : Type} [WorkerStore σ] [WorkerStore τ] [LawfulStore σ] [LawfulStore τ]
  {store : σ} {store' : τ} (same : directory store = directory store')

include same

theorem perm_snapshot_of_directory_eq :
    (WorkerStore.snapshot store).Perm (WorkerStore.snapshot store') := by
  rw [List.perm_ext_iff_of_nodup (LawfulStore.nodup_snapshot store).of_map
    (LawfulStore.nodup_snapshot store').of_map]
  intro w
  rw [LawfulStore.mem_snapshot, LawfulStore.mem_snapshot]
  exact Eq.congr_left (congrFun same w.id)

theorem size_of_directory_eq : WorkerStore.size store = WorkerStore.size store' := by
  rw [LawfulStore.size_eq, LawfulStore.size_eq, (perm_snapshot_of_directory_eq same).length_eq]

theorem directory_apply (op : Operation) :
    directory (op.apply store) = directory (op.apply store') := by
  cases op with
  | register w => rw [Operation.apply, Operation.apply, directory_register, directory_register, same]
  | clear => exact directory_empty.trans directory_empty.symm
  | prune stale => rw [Operation.apply, Operation.apply, directory_prune, directory_prune, same]

theorem momentsOf_congr (op : Operation) :
    Clones.momentsOf store op = Clones.momentsOf store' op := by
  cases op with
  | register w =>
    have hid : WorkerStore.get? w.id store = WorkerStore.get? w.id store' := congrFun same w.id
    simp only [Clones.momentsOf, fst_register, hid]
  | clear => rfl
  | prune stale =>
    simp only [Clones.momentsOf, fst_prune, fst_removeStale,
      (perm_snapshot_of_directory_eq same).countP_eq]

theorem operations_congr (ops : List Operation) :
    directory (Operation.applyAll ops store) = directory (Operation.applyAll ops store') ∧
      Clones.momentsOfAll store ops = Clones.momentsOfAll store' ops := by
  induction ops generalizing store store' with
  | nil => exact ⟨same, rfl⟩
  | cons op ops ih =>
    obtain ⟨hdirectory, hmoments⟩ := ih (directory_apply same op)
    refine ⟨hdirectory, ?_⟩
    rw [Clones.momentsOfAll, Clones.momentsOfAll, momentsOf_congr same op, hmoments]

theorem cycle_congr (machine : Machine) (now : Instant) (platform : Platform)
    (meanwhile : List Operation) {order order' : List Worker} (workers : order.Perm order')
    (roots : order.map (·.pid) = order'.map (·.pid)) :
    let cycle := Cycle.ofSnapshot machine now platform (Operation.applyAll meanwhile) order store
    let cycle' := Cycle.ofSnapshot machine now platform (Operation.applyAll meanwhile) order' store'
    cycle.metrics.Perm cycle'.metrics ∧ directory cycle.store = directory cycle'.store := by
  intro cycle cycle'
  have hmetrics : cycle.metrics.Perm cycle'.metrics := by
    unfold cycle cycle'
    rw [Cycle.metrics_ofSnapshot, Cycle.metrics_ofSnapshot, roots]
    exact workers.map _
  refine ⟨hmetrics, ?_⟩
  have hstale : ∀ w, w ∈ Cycle.stale cycle.metrics ↔ w ∈ Cycle.stale cycle'.metrics := by
    intro w
    rw [Cycle.mem_stale, Cycle.mem_stale]
    simp only [hmetrics.mem_iff]
  have hleft : directory (if platform.supportsAccounting then Operation.applyAll meanwhile store
      else store) = directory (if platform.supportsAccounting then Operation.applyAll meanwhile store'
      else store') := by
    split
    · exact (operations_congr same meanwhile).1
    · exact same
  unfold cycle cycle' at hstale ⊢
  rw [Cycle.store_ofSnapshot, Cycle.store_ofSnapshot, directory_prune, directory_prune, hleft]
  unfold Directory.without
  simp only [hstale]

end

/-! ## Runs of collectors -/

namespace Clones

/-- The same is done, and a cycle passes the same roots in the same order. -/
inductive Act.SameRoots : Act → Act → Prop where
  | same (act : Act) : SameRoots act act
  | collect {now : Instant} {meanwhile : List Operation} {order order' : List Worker} :
    order.Perm order' → order.map (·.pid) = order'.map (·.pid) →
    SameRoots (.collect order now meanwhile) (.collect order' now meanwhile)

inductive Event.SameRoots : Event → Event → Prop where
  | through (clone : Nat) {act act' : Act} : act.SameRoots act' →
    SameRoots (.through clone act) (.through clone act')
  | change (machine : Machine) : SameRoots (.change machine) (.change machine)

/-- The same answer, a report in any order. -/
inductive Moment.Same : Moment → Moment → Prop where
  | same (m : Moment) : Same m m
  | reported {metrics metrics' : List Metric} : metrics.Perm metrics' →
    Same (.reported metrics) (.reported metrics')

variable {σ τ : Type} [WorkerStore σ] [WorkerStore τ]

/-- A new collector. -/
def start (machine : Machine) (platform : Platform) : Clones σ :=
  { store := WorkerStore.empty, machine, platforms := [some platform] }

/-- Two collectors that look the same from outside. -/
structure Alike (s : Clones σ) (t : Clones τ) : Prop where
  directory : directory s.store = directory t.store
  machine : s.machine = t.machine
  platforms : s.platforms = t.platforms

/-- Both get the same answers and go on alike, or neither gets on. -/
def Agree : Option (List Moment × Clones σ) → Option (List Moment × Clones τ) → Prop :=
  Option.Rel fun r r' => List.Forall₂ Moment.Same r.1 r'.1 ∧ Alike r.2 r'.2

theorem forall₂_same (moments : List Moment) : List.Forall₂ Moment.Same moments moments :=
  List.forall₂_same.mpr fun m _ => .same m

variable [LawfulStore σ] [LawfulStore τ] {s : Clones σ} {t : Clones τ} (alike : Alike s t)

include alike

theorem collect_alike (clone : Nat) (platform : Platform) (now : Instant)
    (meanwhile : List Operation) {order order' : List Worker} (workers : order.Perm order')
    (roots : order.map (·.pid) = order'.map (·.pid)) :
    List.Forall₂ Moment.Same (s.perform clone platform (.collect order now meanwhile)).1
        (t.perform clone platform (.collect order' now meanwhile)).1 ∧
      Alike (s.perform clone platform (.collect order now meanwhile)).2
        (t.perform clone platform (.collect order' now meanwhile)).2 := by
  obtain ⟨hdirectory, hmachine, hplatforms⟩ := alike
  obtain ⟨hmetrics, hstore⟩ :=
    cycle_congr hdirectory s.machine now platform meanwhile workers roots
  simp only [perform, ← hmachine, (operations_congr hdirectory meanwhile).2]
  exact ⟨.cons (.reported hmetrics) (forall₂_same _), hstore, rfl, hplatforms⟩

theorem perform_alike (clone : Nat) (platform : Platform) {act act' : Act}
    (same : act.SameRoots act') :
    List.Forall₂ Moment.Same (s.perform clone platform act).1 (t.perform clone platform act').1 ∧
      Alike (s.perform clone platform act).2 (t.perform clone platform act').2 := by
  obtain ⟨hdirectory, hmachine, hplatforms⟩ := id alike
  cases same with
  | collect workers roots => exact collect_alike alike clone platform _ _ workers roots
  | same act =>
    cases act with
    | collect order now meanwhile =>
      exact collect_alike alike clone platform now meanwhile (.refl order) rfl
    | operate op =>
      refine ⟨?_, directory_apply hdirectory op, hmachine, hplatforms⟩
      simp only [perform, momentsOf_congr hdirectory op]
      exact forall₂_same _
    | count =>
      refine ⟨?_, hdirectory, hmachine, hplatforms⟩
      simp only [perform, size_of_directory_eq hdirectory]
      exact forall₂_same _
    | clone => exact ⟨.nil, hdirectory, hmachine, congrArg (· ++ [some platform]) hplatforms⟩
    | place platform =>
      exact ⟨.nil, hdirectory, hmachine, congrArg (·.set clone (some platform)) hplatforms⟩
    | shutdown =>
      exact ⟨.nil, directory_empty.trans directory_empty.symm, hmachine,
        congrArg (·.set clone none) hplatforms⟩

theorem allows_alike {act act' : Act} (same : act.SameRoots act') : s.Allows act ↔ t.Allows act' := by
  have hperm := perm_snapshot_of_directory_eq alike.directory
  cases same with
  | collect workers _ =>
    exact ⟨fun h => workers.symm.trans (h.trans hperm), fun h => workers.trans (h.trans hperm.symm)⟩
  | same act =>
    cases act with
    | collect => exact ⟨fun h => h.trans hperm, fun h => h.trans hperm.symm⟩
    | _ => exact Iff.rfl

theorem step_alike {e e' : Event} (same : e.SameRoots e') : Agree (s.step e) (t.step e') := by
  cases same with
  | change machine => exact .some ⟨.nil, alike.directory, rfl, alike.platforms⟩
  | through clone hact =>
    simp only [step, ← alike.platforms]
    cases s.platforms[clone]?.join with
    | none => exact .none
    | some platform =>
      simp only [Option.bind_some, allows_alike alike hact]
      split
      · exact .some (perform_alike alike clone platform hact)
      · exact .none

omit alike in
theorem run_alike (alike : Alike s t) {events events' : List Event}
    (same : List.Forall₂ Event.SameRoots events events') : Agree (s.run events) (t.run events') := by
  induction same generalizing s t with
  | nil => exact .some ⟨.nil, alike⟩
  | @cons e e' events events' hsame _ ih =>
    have hstep := step_alike alike hsame
    simp only [run]
    generalize s.step e = r at hstep ⊢
    generalize t.step e' = r' at hstep ⊢
    cases hstep with
    | none => exact .none
    | @some r r' hfirst =>
      have hrest := ih hfirst.2
      simp only [Option.bind_some]
      generalize r.2.run events = q at hrest ⊢
      generalize r'.2.run events' = q' at hrest ⊢
      cases hrest with
      | none => exact .none
      | some hrest => exact .some ⟨List.rel_append hfirst.1 hrest.1, hrest.2⟩

end Clones

/-! ## The two stores -/

theorem run_refer (σ : Type) [WorkerStore σ] [LawfulStore σ] (commands : List Command) :
    Handles.run (fun _ => none) Request.refer (.start fun _ => none) commands =
      let run := Handles.run (WorkerStore.empty : σ) Request.ask (.start WorkerStore.empty) commands
      (run.1.map (·.map Answer.meaning), run.2.map directory) := by
  have hstart : (Handles.start (WorkerStore.empty : σ)).map directory = .start fun _ => none := by
    simp [Handles.start, Handles.map, directory_empty]
  rw [← hstart]
  exact Handles.run_map directory_empty (fun store r => refer_directory r store) _ commands

/-- Both stores give the answers of one partial map, through any handles, and are always in order.
Collectors on them report the same. -/
theorem backends_agree :
    (∀ commands : List Command,
      let reference := Handles.run (fun _ => none) Request.refer (.start fun _ => none) commands
      let sharded := Handles.run (WorkerStore.empty : ShardedStore) Request.ask
        (.start WorkerStore.empty) commands
      let locked := Handles.run (WorkerStore.empty : LockedStore) Request.ask
        (.start WorkerStore.empty) commands
      sharded.1.map (·.map Answer.meaning) = reference.1 ∧
      locked.1.map (·.map Answer.meaning) = reference.1 ∧
      sharded.2.map directory = reference.2 ∧
      locked.2.map directory = reference.2 ∧
      (∀ store ∈ sharded.2.stores, Orderly store) ∧
      ∀ store ∈ locked.2.stores, Orderly store) ∧
    ∀ (machine : Machine) (platform : Platform) (events events' : List Clones.Event),
      List.Forall₂ Clones.Event.SameRoots events events' →
      Clones.Agree ((Clones.start machine platform : Clones ShardedStore).run events)
        ((Clones.start machine platform : Clones LockedStore).run events') := by
  constructor
  · intro commands reference sharded locked
    have hsharded := run_refer ShardedStore commands
    have hlocked := run_refer LockedStore commands
    exact ⟨congrArg Prod.fst hsharded.symm, congrArg Prod.fst hlocked.symm,
      congrArg Prod.snd hsharded.symm, congrArg Prod.snd hlocked.symm,
      fun store _ => orderly store, fun store _ => orderly store⟩
  · intro machine platform events events' same
    have alike : Clones.Alike (Clones.start machine platform : Clones ShardedStore)
        (Clones.start machine platform : Clones LockedStore) :=
      ⟨directory_empty.trans directory_empty.symm, rfl, rfl⟩
    exact Clones.run_alike alike same

/-- Two workers of one process change places in the order of a cycle. -/
theorem backends_agree_on_one_process :
    let w : Worker := { id := 1, pid := 10 }
    let v : Worker := { id := 2, pid := 10 }
    let machine := Machine.still ⟨[⟨10, none⟩]⟩ ((∅ : Samples).insert 10 5)
    let sharded : Clones ShardedStore := .start machine .linux
    let locked : Clones LockedStore := .start machine .linux
    let run (order : List Worker) : List Clones.Event := [
      .through 0 (.operate (.register w)),
      .through 0 (.operate (.register v)),
      .through 0 (.collect order .epoch [])]
    List.Forall₂ Clones.Event.SameRoots (run [w, v]) (run [v, w]) ∧
    (sharded.run (run [w, v])).isSome ∧
    Clones.Agree (sharded.run (run [w, v])) (locked.run (run [v, w])) := by
  intro w v machine sharded locked run
  have same : List.Forall₂ Clones.Event.SameRoots (run [w, v]) (run [v, w]) :=
    .cons (.through 0 (.same _)) (.cons (.through 0 (.same _))
      (.cons (.through 0 (.collect (.swap v w []) rfl)) .nil))
  exact ⟨same, by decide +kernel, backends_agree.2 machine .linux _ _ same⟩

end WorkerMemory
