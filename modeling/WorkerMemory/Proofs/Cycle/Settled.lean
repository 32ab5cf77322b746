import WorkerMemory.Proofs.Cycle.Figure

/-! # After one cycle nothing is left to remove

The first cycle drops the workers without memory, and with them their roots. No sampled process
changes its owner by that: who owns a sampled process has memory. So as long as nothing changes,
all later cycles show the figures of the first.
-/

namespace WorkerMemory

open Relation

/-! ## Dropping the roots without memory -/

theorem Survey.kb?_filter_isSome {table : ProcessTable} {memory : Samples} {platform : Platform}
    (now now' : Instant) (roots : List Pid) (root : Pid) :
    kb? (take (.still table memory) now' platform (roots.filter fun r =>
        (kb? (take (.still table memory) now platform roots) r).isSome)) root =
      kb? (take (.still table memory) now platform roots) root := by
  apply kb?_congr
  intro supported sample hsample
  rw [ProcessTable.owner?_filter]
  intro owner howner
  exact isSome_kb?_iff.mpr ⟨supported, sample, hsample, howner⟩

theorem eq_filter_of_sublist {α : Type} {l part : List α} {p : α → Bool} (hpart : part.Sublist l)
    (hperm : part.Perm (l.filter p)) : part = l.filter p := by
  have hall : part.filter p = part := by
    rw [List.filter_eq_self]
    intro a ha
    exact (List.mem_filter.mp (hperm.mem_iff.mp ha)).2
  have hsub : part.Sublist (l.filter p) := by
    rw [← hall]
    exact hpart.filter p
  exact hsub.eq_of_length hperm.length_eq

namespace Cycle

variable {σ : Type}

/-! ## What does not change any more -/

/-- The report of `later` is the measured part of that of `former`, and nobody is removed. -/
structure Settles (former later : Cycle σ) : Prop where
  figures : (later.metrics.map (·.figure)).Perm
    ((former.metrics.filter (·.isMeasurable)).map (·.figure))
  measured : ∀ m ∈ later.metrics, m.isMeasurable = true
  removed : later.removed = 0
  store : later.store = former.store

theorem Settles.trans {first former later : Cycle σ} (h : Settles first former)
    (h' : Settles former later) : Settles first later where
  figures := by
    have hall : former.metrics.filter (·.isMeasurable) = former.metrics :=
      List.filter_eq_self.mpr h.measured
    have hfigures := h'.figures
    rw [hall] at hfigures
    exact hfigures.trans h.figures
  measured := h'.measured
  removed := h'.removed
  store := h'.store.trans h.store

variable [WorkerStore σ]

theorem pids_ofSnapshot (machine : Machine) (now : Instant) (platform : Platform) (during : σ → σ)
    (order : List Worker) (store : σ) :
    (ofSnapshot machine now platform during order store).metrics.map (·.worker.pid) =
      order.map (·.pid) := by
  have hworkers := congrArg (List.map (·.pid))
    (workers_ofSnapshot machine now platform during order store)
  rwa [List.map_map] at hworkers

theorem nothing_removed {machine : Machine} {now : Instant} {platform : Platform}
    {order : List Worker} {store : σ}
    (measured : ∀ m ∈ (ofSnapshot machine now platform id order store).metrics,
      m.isMeasurable = true) :
    (ofSnapshot machine now platform id order store).removed = 0 ∧
      (ofSnapshot machine now platform id order store).store = store := by
  have hstale : stale (ofSnapshot machine now platform id order store).metrics = [] := by
    unfold stale
    rw [List.map_eq_nil_iff, List.filter_eq_nil_iff]
    intro m hm
    simp [measured m hm]
  rw [metrics_ofSnapshot] at hstale
  simp only [ofSnapshot, hstale, Registry.prune, List.isEmpty_nil, if_true, id, ite_self, and_self]

/-! ## One cycle right after another -/

/-- The later cycle finds the registry as the former has left it, and passes the roots that are left
in the order in which the former passed them. -/
def Follows (machine : Machine) (platform : Platform) (former later : Cycle σ) : Prop :=
  ∃ order now, order.Perm (WorkerStore.snapshot former.store) ∧
    (order.map (·.pid)).Sublist (former.metrics.map (·.worker.pid)) ∧
    later = ofSnapshot machine now platform id order former.store

variable [LawfulStore σ]

theorem exists_follows (machine : Machine) (now : Instant) (platform : Platform)
    {order : List Worker} {store : σ} (listed : order.Perm (WorkerStore.snapshot store)) :
    ∃ later, Follows machine platform (ofSnapshot machine now platform id order store) later := by
  -- The workers that are left may keep their order.
  refine ⟨_, _, now, (snapshot_ofSnapshot machine now platform listed).symm, ?_, rfl⟩
  rw [pids_ofSnapshot]
  exact List.filter_sublist.map _

variable {table : ProcessTable} {memory : Samples} {platform : Platform}

theorem roots_of_follows {machine : Machine} {now : Instant} {order order' : List Worker}
    {store : σ} (listed : order.Perm (WorkerStore.snapshot store))
    (listed' : order'.Perm (WorkerStore.snapshot
      (ofSnapshot machine now platform id order store).store))
    (ordered : (order'.map (·.pid)).Sublist (order.map (·.pid))) :
    order'.map (·.pid) = (order.map (·.pid)).filter fun r =>
      (Survey.kb? (Survey.take machine now platform (order.map (·.pid))) r).isSome := by
  apply eq_filter_of_sublist ordered
  rw [List.filter_map]
  exact (listed'.trans (snapshot_ofSnapshot machine now platform listed)).map _

theorem settles_of_follows {now : Instant} {order : List Worker} {store : σ}
    (listed : order.Perm (WorkerStore.snapshot store)) {later : Cycle σ}
    (next : Follows (.still table memory) platform
      (ofSnapshot (.still table memory) now platform id order store) later) :
    Settles (ofSnapshot (.still table memory) now platform id order store) later := by
  obtain ⟨order', now', listed', ordered, rfl⟩ := next
  rw [pids_ofSnapshot] at ordered
  have hroots := roots_of_follows listed listed' ordered
  have hleft := listed'.trans (snapshot_ofSnapshot _ now platform listed)
  have hkb (root : Pid) :
      Survey.kb? (Survey.take (.still table memory) now' platform (order'.map (·.pid))) root =
        Survey.kb? (Survey.take (.still table memory) now platform (order.map (·.pid))) root := by
    rw [hroots]
    exact Survey.kb?_filter_isSome now now' _ root
  have hmeasured : ∀ m ∈ (ofSnapshot (.still table memory) now' platform id order'
      (ofSnapshot (.still table memory) now platform id order store).store).metrics,
      m.isMeasurable = true := by
    intro m hm
    obtain ⟨w, hw, rfl⟩ := List.mem_map.mp hm
    rw [Survey.isMeasurable_metric, hkb]
    exact (List.mem_filter.mp (hleft.mem_iff.mp hw)).2
  obtain ⟨hremoved, hstore⟩ := nothing_removed hmeasured
  refine ⟨?_, hmeasured, hremoved, hstore⟩
  rw [figures_ofSnapshot, measured_figures_ofSnapshot]
  simp only [hkb]
  exact hleft.map _

/-- However many cycles follow the first one while nothing changes: each reports exactly the workers
that the first has measured, with the same memory, and removes nobody. -/
theorem settled_after_one (table : ProcessTable) (memory : Samples) (now : Instant)
    (platform : Platform) {order : List Worker} {store : σ}
    (listed : order.Perm (WorkerStore.snapshot store)) :
    let machine := Machine.still table memory
    let first := ofSnapshot machine now platform id order store
    (∃ second, Follows machine platform first second) ∧
    ∀ later, TransGen (Follows machine platform) first later →
      (later.metrics.map (·.figure)).Perm
        ((first.metrics.filter (·.isMeasurable)).map (·.figure)) ∧
      (∀ m ∈ later.metrics, m.isMeasurable = true) ∧
      later.removed = 0 ∧
      later.store = first.store := by
  intro machine first
  refine ⟨exists_follows machine now platform listed, ?_⟩
  intro later cycles
  have hsettled : Settles first later := by
    induction cycles with
    | single next => exact settles_of_follows listed next
    | tail before next ih =>
      -- The former cycle is itself one of those that follow another.
      obtain ⟨_, _, ⟨_, _, listed', _, rfl⟩⟩ := TransGen.tail'_iff.mp before
      exact ih.trans (settles_of_follows listed' next)
  exact ⟨hsettled.figures, hsettled.measured, hsettled.removed, hsettled.store⟩

/-- A root within the tree of a later one and a dead root go; two workers of one root then take
turns in front, and nothing changes any more. -/
theorem settled_after_one_nested :
    let table : ProcessTable := ⟨[⟨10, none⟩, ⟨11, some 10⟩, ⟨12, some 11⟩, ⟨10, some 12⟩]⟩
    let machine := Machine.still table ((∅ : Samples).insert 12 5)
    let outer : Worker := { id := 1, pid := 10 }
    let inner : Worker := { id := 2, pid := 11 }
    let again : Worker := { id := 3, pid := 10 }
    let dead : Worker := { id := 4, pid := 99 }
    let order := [outer, inner, again, dead]
    let store := Registry.Operation.applyAll (order.map .register) (WorkerStore.empty : ShardedStore)
    let first := ofSnapshot machine .epoch .linux id order store
    let second := ofSnapshot machine .epoch .linux id [again, outer] first.store
    let third := ofSnapshot machine .epoch .linux id [outer, again] second.store
    order.Perm (WorkerStore.snapshot store) ∧ first.removed = 2 ∧
    TransGen (Follows machine .linux) first third ∧
    (third.metrics.map (·.figure)).Perm [(outer, some 5), (again, some 5)] ∧
    third.removed = 0 ∧ third.store = first.store := by
  intro table machine outer inner again dead order store first second third
  have listed : order.Perm (WorkerStore.snapshot store) := by decide
  have hsecond : Follows machine .linux first second :=
    ⟨[again, outer], .epoch, by decide +kernel, by decide +kernel, rfl⟩
  have hthird : Follows machine .linux second third :=
    ⟨[outer, again], .epoch, by decide +kernel, by decide +kernel, rfl⟩
  have cycles : TransGen (Follows machine .linux) first third := .tail (.single hsecond) hthird
  obtain ⟨-, hlater⟩ := settled_after_one table ((∅ : Samples).insert 12 5) .epoch .linux listed
  obtain ⟨hfigures, -, hremoved, hstore⟩ := hlater third cycles
  have hmeasured : (first.metrics.filter (·.isMeasurable)).map (·.figure) =
      [(outer, some 5), (again, some 5)] := by
    decide +kernel
  exact ⟨listed, by decide +kernel, cycles, hmeasured ▸ hfigures, hremoved, hstore⟩

end Cycle

end WorkerMemory
