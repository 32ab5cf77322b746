import WorkerMemory.Proofs.Cycle.Interference

/-! # Runs of a collector and its clones

All clones share one registry and ask one machine, which may change between any two cycles; each has
a platform of its own. A worker that a cycle reports as gone is reported again only if its id was
registered again in between.
-/

namespace WorkerMemory

open Registry

/-- A collector with its clones. -/
structure Clones (σ : Type) where
  store : σ
  machine : Machine
  /-- The platform of each clone, or none after its shutdown. -/
  platforms : List (Option Platform)

namespace Clones

/-! ## What is done and what becomes known -/

/-- What can be done through a clone. -/
inductive Act where
  | operate (op : Operation)
  | count
  /-- A cycle that passes the workers in some order. Others use the registry while it samples. -/
  | collect (order : List Worker) (now : Instant) (meanwhile : List Operation)
  | clone
  | place (platform : Platform)
  | shutdown

inductive Event where
  | through (clone : Nat) (act : Act)
  /-- Processes and their memory change. -/
  | change (machine : Machine)

/-- An answer that somebody gets. A report counts from its snapshot on, so what happens while the
cycle samples comes after it. -/
inductive Moment where
  | registered (w : Worker) (isNew : Bool)
  | pruned (removed : Nat)
  | counted (workers : Nat)
  | reported (metrics : List Metric)
  deriving DecidableEq

/-- Somebody registered the id with success. -/
def Registers (moments : List Moment) (id : WorkerId) : Prop :=
  ∃ w, .registered w true ∈ moments ∧ w.id = id

variable {σ : Type} [WorkerStore σ]

def momentsOf (store : σ) : Operation → List Moment
  | .register w => [.registered w (register w store).1]
  | .clear => []
  | .prune stale => [.pruned (prune stale store).1]

def momentsOfAll (store : σ) : List Operation → List Moment
  | [] => []
  | op :: ops => momentsOf store op ++ momentsOfAll (op.apply store) ops

/-- A cycle may pass the workers in any order. -/
def Allows (s : Clones σ) : Act → Prop
  | .collect order _ _ => order.Perm (WorkerStore.snapshot s.store)
  | _ => True

instance (s : Clones σ) : (act : Act) → Decidable (s.Allows act)
  | .collect order _ _ => inferInstanceAs (Decidable (order.Perm _))
  | .operate _ | .count | .clone | .place _ | .shutdown => isTrue trivial

def perform (s : Clones σ) (clone : Nat) (platform : Platform) : Act → List Moment × Clones σ
  | .operate op => (momentsOf s.store op, { s with store := op.apply s.store })
  | .count => ([.counted (WorkerStore.size s.store)], s)
  | .collect order now meanwhile =>
    let cycle :=
      Cycle.ofSnapshot s.machine now platform (Operation.applyAll meanwhile) order s.store
    (.reported cycle.metrics ::
        if platform.supportsAccounting then momentsOfAll s.store meanwhile else [],
      { s with store := cycle.store })
  | .clone => ([], { s with platforms := s.platforms ++ [some platform] })
  | .place platform => ([], { s with platforms := s.platforms.set clone (some platform) })
  | .shutdown => ([], {
      s with
      store := WorkerStore.clear s.store
      platforms := s.platforms.set clone none })

def step (s : Clones σ) : Event → Option (List Moment × Clones σ)
  | .change machine => some ([], { s with machine })
  | .through clone act =>
    s.platforms[clone]?.join.bind fun platform =>
      if s.Allows act then some (s.perform clone platform act) else none

def run (s : Clones σ) : List Event → Option (List Moment × Clones σ)
  | [] => some ([], s)
  | e :: events =>
    (s.step e).bind fun (first, t) =>
      (t.run events).map fun (rest, u) => (first ++ rest, u)

/-! ## Steps and runs -/

variable {s t u : Clones σ}

theorem step_through_iff {clone : Nat} {act : Act} {r : List Moment × Clones σ} :
    s.step (.through clone act) = some r ↔ ∃ platform,
      s.platforms[clone]?.join = some platform ∧ s.Allows act ∧
        r = s.perform clone platform act := by
  simp only [step, Option.bind_eq_some_iff]
  constructor
  · rintro ⟨platform, hplatform, h⟩
    split at h
    · next hallowed => exact ⟨platform, hplatform, hallowed, (Option.some.inj h).symm⟩
    · contradiction
  · rintro ⟨platform, hplatform, hallowed, rfl⟩
    exact ⟨platform, hplatform, if_pos hallowed⟩

theorem run_cons_iff {e : Event} {events : List Event} {log : List Moment} :
    s.run (e :: events) = some (log, u) ↔ ∃ first t rest,
      s.step e = some (first, t) ∧ t.run events = some (rest, u) ∧ log = first ++ rest := by
  simp only [run, Option.bind_eq_some_iff, Option.map_eq_some_iff]
  constructor
  · rintro ⟨⟨first, t⟩, hstep, ⟨rest, u⟩, hrun, heq⟩
    obtain ⟨rfl, rfl⟩ := Prod.mk.inj heq
    exact ⟨first, t, rest, hstep, hrun, rfl⟩
  · rintro ⟨first, t, rest, hstep, hrun, rfl⟩
    exact ⟨(first, t), hstep, (rest, u), hrun, rfl⟩

theorem step_cases {e : Event} {moments : List Moment} (h : s.step e = some (moments, t)) :
    (∃ op, t.store = op.apply s.store ∧ moments = momentsOf s.store op) ∨
    (t.store = s.store ∧ ∀ m ∈ moments, ∃ n, m = .counted n) ∨
    ∃ order now platform meanwhile,
      order.Perm (WorkerStore.snapshot s.store) ∧
      t.store = (Cycle.ofSnapshot s.machine now platform (Operation.applyAll meanwhile) order
        s.store).store ∧
      moments = .reported (Cycle.ofSnapshot s.machine now platform (Operation.applyAll meanwhile)
          order s.store).metrics ::
        if platform.supportsAccounting then momentsOfAll s.store meanwhile else [] := by
  cases e with
  | change machine =>
    obtain ⟨rfl, rfl⟩ := Prod.mk.inj (Option.some.inj h)
    exact .inr (.inl ⟨rfl, by simp⟩)
  | through clone act =>
    obtain ⟨platform, -, hallowed, hr⟩ := step_through_iff.mp h
    cases act with
    | operate op =>
      obtain ⟨rfl, rfl⟩ := Prod.mk.inj hr
      exact .inl ⟨op, rfl, rfl⟩
    | collect order now meanwhile =>
      obtain ⟨rfl, rfl⟩ := Prod.mk.inj hr
      exact .inr (.inr ⟨order, now, platform, meanwhile, hallowed, rfl, rfl⟩)
    | shutdown =>
      obtain ⟨rfl, rfl⟩ := Prod.mk.inj hr
      exact .inl ⟨.clear, rfl, rfl⟩
    | count =>
      obtain ⟨rfl, rfl⟩ := Prod.mk.inj hr
      exact .inr (.inl ⟨rfl, by simp⟩)
    | clone | place =>
      obtain ⟨rfl, rfl⟩ := Prod.mk.inj hr
      exact .inr (.inl ⟨rfl, by simp⟩)

theorem reported_notMem_momentsOf {store : σ} {op : Operation} {metrics : List Metric} :
    .reported metrics ∉ momentsOf store op := by
  cases op <;> simp [momentsOf]

theorem reported_notMem_momentsOfAll {store : σ} {ops : List Operation} {metrics : List Metric} :
    .reported metrics ∉ momentsOfAll store ops := by
  induction ops generalizing store with
  | nil => simp [momentsOfAll]
  | cons op ops ih => simp [momentsOfAll, reported_notMem_momentsOf, ih]

theorem exists_cycle_of_reported {e : Event} {metrics : List Metric} {window : List Moment}
    (h : s.step e = some (.reported metrics :: window, t)) : ∃ order now platform meanwhile,
    order.Perm (WorkerStore.snapshot s.store) ∧
    metrics = (Cycle.ofSnapshot s.machine now platform (Operation.applyAll meanwhile) order
      s.store).metrics ∧
    window = (if platform.supportsAccounting then momentsOfAll s.store meanwhile else []) ∧
    t.store = (Cycle.ofSnapshot s.machine now platform (Operation.applyAll meanwhile) order
      s.store).store := by
  rcases step_cases h with ⟨op, -, hmoments⟩ | ⟨-, hcounted⟩ |
    ⟨order, now, platform, meanwhile, listed, hstore, hmoments⟩
  · exact absurd (hmoments ▸ List.mem_cons_self) reported_notMem_momentsOf
  · obtain ⟨n, heq⟩ := hcounted _ List.mem_cons_self
    contradiction
  · obtain ⟨heq, hwindow⟩ := List.cons.inj hmoments
    exact ⟨order, now, platform, meanwhile, listed, Moment.reported.inj heq, hwindow, hstore⟩

theorem nil_of_reported {e : Event} {moments before rest : List Moment} {metrics : List Metric}
    (h : s.step e = some (moments, t)) (split : moments = before ++ .reported metrics :: rest) :
    before = [] := by
  rcases step_cases h with ⟨op, -, rfl⟩ | ⟨-, hcounted⟩ | ⟨_, _, platform, meanwhile, -, -, rfl⟩
  · have hmem : .reported metrics ∈ momentsOf s.store op := by simp [split]
    exact absurd hmem reported_notMem_momentsOf
  · obtain ⟨n, heq⟩ := hcounted (.reported metrics) (by simp [split])
    contradiction
  · cases before with
    | nil => rfl
    | cons m before =>
      have hmem : Moment.reported metrics ∈
          if platform.supportsAccounting then momentsOfAll s.store meanwhile else [] := by
        rw [(List.cons.inj split).2]
        simp
      split at hmem
      · exact absurd hmem reported_notMem_momentsOfAll
      · contradiction

theorem exists_step_of_reported {events : List Event} {log before rest : List Moment}
    {metrics : List Metric} (h : s.run events = some (log, u))
    (split : log = before ++ .reported metrics :: rest) :
    ∃ first s₁ e window s₂ last log', s.run first = some (before, s₁) ∧
      s₁.step e = some (.reported metrics :: window, s₂) ∧ s₂.run last = some (log', u) ∧
      rest = window ++ log' := by
  induction events generalizing s log before with
  | nil =>
    obtain ⟨rfl, -⟩ := Prod.mk.inj (Option.some.inj h)
    simp at split
  | cons e events ih =>
    obtain ⟨moments, t, log', hstep, hrun, rfl⟩ := run_cons_iff.mp h
    have hlater (before' : List Moment) (heq : before = moments ++ before')
        (split' : log' = before' ++ .reported metrics :: rest) :
        ∃ first s₁ e window s₂ last log', s.run first = some (before, s₁) ∧
          s₁.step e = some (.reported metrics :: window, s₂) ∧ s₂.run last = some (log', u) ∧
          rest = window ++ log' := by
      obtain ⟨first, s₁, e', window, s₂, last, log'', hfirst, hfound⟩ := ih hrun split'
      refine ⟨e :: first, s₁, e', window, s₂, last, log'', ?_, hfound⟩
      exact run_cons_iff.mpr ⟨moments, t, before', hstep, hfirst, heq⟩
    rcases List.append_eq_append_iff.mp split with ⟨before', heq, split'⟩ | ⟨end', heq, split'⟩
    · exact hlater before' heq split'
    · cases end' with
      | nil => exact hlater [] (by simpa using heq.symm) (by simpa using split'.symm)
      | cons m window =>
        -- The report belongs to the moments of this very step.
        obtain ⟨rfl, rfl⟩ := List.cons.inj split'
        obtain rfl := nil_of_reported hstep heq
        rw [List.nil_append] at heq
        subst heq
        exact ⟨[], s, e, window, t, events, log', rfl, hstep, hrun, rfl⟩

/-! ## What is registered without a registration -/

variable [LawfulStore σ]

theorem held_before_operation {store : σ} {op : Operation} {id : WorkerId} {w : Worker}
    (held : WorkerStore.get? id (op.apply store) = some w)
    (unregistered : ¬ Registers (momentsOf store op) id) : WorkerStore.get? id store = some w := by
  cases op with
  | register v =>
    rw [Operation.apply, get?_register] at held
    cases hid : WorkerStore.get? id store with
    | some v' => rwa [hid, Option.some_or] at held
    | none =>
      rw [hid, Option.none_or] at held
      split at held
      · next heq =>
        refine absurd ⟨v, ?_, heq.symm⟩ unregistered
        rw [momentsOf, fst_register, ← heq, hid]
        exact List.mem_singleton_self _
      · contradiction
  | clear => simp [Operation.apply] at held
  | prune stale =>
    rw [Operation.apply, get?_prune, Option.filter_eq_some_iff] at held
    exact held.1

theorem held_before_operations {store : σ} {ops : List Operation} {id : WorkerId} {w : Worker}
    (held : WorkerStore.get? id (Operation.applyAll ops store) = some w)
    (unregistered : ¬ Registers (momentsOfAll store ops) id) :
    WorkerStore.get? id store = some w := by
  induction ops generalizing store with
  | nil => exact held
  | cons op ops ih =>
    simp only [Registers, momentsOfAll, List.mem_append] at unregistered
    have hrest := ih held fun ⟨v, hv, hid⟩ => unregistered ⟨v, .inr hv, hid⟩
    exact held_before_operation hrest fun ⟨v, hv, hid⟩ => unregistered ⟨v, .inl hv, hid⟩

theorem held_before_cycle {machine : Machine} {now : Instant} {platform : Platform}
    {meanwhile : List Operation} {order : List Worker} {store : σ} {id : WorkerId} {w : Worker}
    (held : WorkerStore.get? id (Cycle.ofSnapshot machine now platform
      (Operation.applyAll meanwhile) order store).store = some w)
    (unregistered : ¬ Registers
      (if platform.supportsAccounting then momentsOfAll store meanwhile else []) id) :
    WorkerStore.get? id store = some w ∧ w ∉ Cycle.stale (Cycle.ofSnapshot machine now platform
      (Operation.applyAll meanwhile) order store).metrics := by
  rw [Cycle.store_ofSnapshot, get?_prune, Option.filter_eq_some_iff, decide_eq_true_iff] at held
  refine ⟨?_, held.2⟩
  split at held
  · next supported =>
    rw [if_pos supported] at unregistered
    exact held_before_operations held.1 unregistered
  · exact held.1

theorem held_before_step {e : Event} {moments : List Moment} {id : WorkerId} {w : Worker}
    (h : s.step e = some (moments, t)) (held : WorkerStore.get? id t.store = some w)
    (unregistered : ¬ Registers moments id) : WorkerStore.get? id s.store = some w := by
  rcases step_cases h with ⟨op, hstore, rfl⟩ | ⟨hstore, -⟩ |
    ⟨order, now, platform, meanwhile, -, hstore, rfl⟩
  · rw [hstore] at held
    exact held_before_operation held unregistered
  · rwa [hstore] at held
  · rw [hstore] at held
    refine (held_before_cycle held ?_).1
    rintro ⟨v, hv, hid⟩
    exact unregistered ⟨v, List.mem_cons_of_mem _ hv, hid⟩

theorem held_before_run {events : List Event} {log : List Moment} {id : WorkerId} {w : Worker}
    (h : s.run events = some (log, t)) (held : WorkerStore.get? id t.store = some w)
    (unregistered : ¬ Registers log id) : WorkerStore.get? id s.store = some w := by
  induction events generalizing s log with
  | nil =>
    obtain ⟨-, rfl⟩ := Prod.mk.inj (Option.some.inj h)
    exact held
  | cons e events ih =>
    obtain ⟨first, u, rest, hstep, hrun, rfl⟩ := run_cons_iff.mp h
    simp only [Registers, List.mem_append] at unregistered
    have hrest := ih hrun fun ⟨v, hv, hid⟩ => unregistered ⟨v, .inr hv, hid⟩
    exact held_before_step hstep hrest fun ⟨v, hv, hid⟩ => unregistered ⟨v, .inl hv, hid⟩

/-! ## From one report to the next -/

section

variable {e : Event} {metrics : List Metric} {window : List Moment}
  (h : s.step e = some (.reported metrics :: window, t))

include h

theorem registered_of_reported {m : Metric} (hm : m ∈ metrics) :
    WorkerStore.get? m.worker.id s.store = some m.worker := by
  obtain ⟨order, now, platform, meanwhile, listed, rfl, -, -⟩ := exists_cycle_of_reported h
  exact Cycle.get?_of_mem_metrics _ _ _ _ listed hm

/-- A worker that is there after a cycle, and was not registered meanwhile, was reported by it, and
with memory. -/
theorem measured_of_held {id : WorkerId} {w : Worker}
    (held : WorkerStore.get? id t.store = some w) (unregistered : ¬ Registers window id) :
    (∃ m ∈ metrics, m.worker = w) ∧
      ∀ m ∈ metrics, m.worker.id = id → m.isMeasurable = true := by
  obtain ⟨order, now, platform, meanwhile, listed, hmetrics, rfl, hstore⟩ :=
    exists_cycle_of_reported h
  rw [hstore] at held
  obtain ⟨hbefore, hfresh⟩ := held_before_cycle held unregistered
  constructor
  · obtain rfl := LawfulStore.id_of_get? hbefore
    have hlisted : w ∈ order := listed.mem_iff.mpr (LawfulStore.mem_snapshot.mpr hbefore)
    rw [← Cycle.workers_ofSnapshot s.machine now platform (Operation.applyAll meanwhile) order
      s.store, ← hmetrics] at hlisted
    exact List.mem_map.mp hlisted
  · rintro m hm rfl
    rw [registered_of_reported h hm] at hbefore
    obtain rfl := Option.some.inj hbefore
    by_contra hno
    rw [← hmetrics] at hfresh
    exact hfresh (Cycle.mem_stale.mpr ⟨m, hm, rfl, by simpa using hno⟩)

end

/-- An id that was reported without memory comes up in a later report only if it was registered
again after the snapshot of the first. Without any registration in between, all workers of the later
report were measured in the first. -/
theorem gone_until_registered {events : List Event} {log before between after : List Moment}
    {first later : List Metric} (h : s.run events = some (log, u))
    (split : log = before ++ .reported first :: (between ++ .reported later :: after)) :
    (∀ m ∈ first, m.isMeasurable = false → ∀ m' ∈ later, m'.worker.id = m.worker.id →
      ∃ w, .registered w true ∈ between ∧ w.id = m.worker.id) ∧
    ((∀ w, .registered w true ∉ between) →
      ∀ m' ∈ later, ∃ m ∈ first, m.worker = m'.worker ∧ m.isMeasurable = true) := by
  obtain ⟨_, s₁, e, window, s₂, events', log', -, hfirst, hrest, hsplit⟩ :=
    exists_step_of_reported h split
  -- The first cycle ends before the later one begins.
  obtain ⟨between', rfl, rfl⟩ :
      ∃ between', between = window ++ between' ∧ log' = between' ++ .reported later :: after := by
    rcases List.append_eq_append_iff.mp hsplit.symm with h' | ⟨end', rfl, h'⟩
    · exact h'
    · cases end' with
      | nil => exact ⟨[], by simp, by simpa using h'.symm⟩
      | cons m end' =>
        obtain ⟨rfl, -⟩ := List.cons.inj h'
        have hnil : Moment.reported first :: between = [] := nil_of_reported hfirst rfl
        contradiction
  obtain ⟨_, s₃, e', window', s₄, _, _, hbetween, hlater, -⟩ := exists_step_of_reported hrest rfl
  have hmeasured {m' : Metric} (hm' : m' ∈ later)
      (unregistered : ¬ Registers (window ++ between') m'.worker.id) :
      (∃ m ∈ first, m.worker = m'.worker) ∧
        ∀ m ∈ first, m.worker.id = m'.worker.id → m.isMeasurable = true := by
    simp only [Registers, List.mem_append] at unregistered
    have hheld := held_before_run hbetween (registered_of_reported hlater hm')
      fun ⟨v, hv, hid⟩ => unregistered ⟨v, .inr hv, hid⟩
    exact measured_of_held hfirst hheld fun ⟨v, hv, hid⟩ => unregistered ⟨v, .inl hv, hid⟩
  constructor
  · intro m hm hno m' hm' hid
    by_contra hunregistered
    rw [← hid] at hunregistered
    have hyes := (hmeasured hm' hunregistered).2 m hm hid.symm
    rw [hno] at hyes
    contradiction
  · intro hunregistered m' hm'
    obtain ⟨⟨m, hm, hworker⟩, hyes⟩ := hmeasured hm' fun ⟨v, hv, _⟩ => hunregistered v hv
    exact ⟨m, hm, hworker, hyes m hm (by rw [hworker])⟩

/-- A worker that is registered while its predecessor is found gone, and reported through another
clone. -/
theorem gone_until_registered_meanwhile :
    let old : Worker := { id := 2, pid := 200 }
    let new : Worker := { id := 2, pid := 400 }
    let start : Clones ShardedStore :=
      ⟨WorkerStore.empty, .still ⟨[⟨400, none⟩]⟩ ((∅ : Samples).insert 400 5), [some .linux]⟩
    let events : List Event := [
      .through 0 (.operate (.register old)),
      .through 0 .clone,
      .through 0 (.collect [old] .epoch [.clear, .register new]),
      .through 1 (.collect [new] .epoch [])]
    let gone := Metric.unmeasurable old
    let back := Metric.measured new { kb := 5, observedAt := .epoch }
    let log : List Moment :=
      [.registered old true] ++ .reported [gone] :: ([.registered new true] ++ .reported [back] :: [])
    (∃ u, start.run events = some (log, u)) ∧
    ∃ w, .registered w true ∈ [Moment.registered new true] ∧ w.id = gone.worker.id := by
  intro old new start events gone back log
  have hlog : (start.run events).map (·.1) = some log := by decide +kernel
  obtain ⟨⟨log, u⟩, hrun, rfl⟩ := Option.map_eq_some_iff.mp hlog
  obtain ⟨hgone, -⟩ := gone_until_registered hrun rfl
  exact ⟨⟨u, hrun⟩, hgone gone (by simp) rfl back (by simp) rfl⟩

end Clones

end WorkerMemory
