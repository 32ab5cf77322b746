import WorkerMemory.Proofs.Cycle.Interference

/-! # Cycles that overlap

The clones of a collector share one registry. They register and clear, and each of their cycles
takes a snapshot first and later removes, one entry at a time, what it could not measure. Between
any two of these events come those of the others.
-/

namespace WorkerMemory

open Registry

/-- A cycle that has taken its snapshot. What it will find unmeasurable is settled from here on: no
other event depends on when it looks. -/
structure Flight where
  snapshot : List Worker
  unmeasurable : List Worker
  judged : unmeasurable.Sublist snapshot
  deriving DecidableEq, Repr

/-- The cycle that reports these metrics. -/
def Flight.ofMetrics (metrics : List Metric) : Flight where
  snapshot := metrics.map (·.worker)
  unmeasurable := Cycle.stale metrics
  judged := by
    unfold Cycle.stale
    exact List.filter_sublist.map _

/-- A registry and all cycles that were begun on it. -/
structure Shared (σ : Type) where
  store : σ
  flights : List Flight

inductive Event where
  | register (w : Worker)
  | clear
  | shutdown
  | begin (flight : Flight)
  /-- The cycle of that number takes out `w`. -/
  | remove (cycle : Nat) (w : Worker)
  deriving DecidableEq, Repr

namespace Event

/-- What the event does to the registry. -/
def operations : Event → List Operation
  | register w => [.register w]
  | clear | shutdown => [.clear]
  | begin _ => []
  | remove _ w => [.prune [w]]

theorem operations_eq (e : Event) : e.operations = [] ∨ ∃ op, e.operations = [op] := by
  cases e <;> simp [operations]

def begun : Event → List Flight
  | begin flight => [flight]
  | _ => []

/-- Drops every worker. -/
def Clears (e : Event) : Prop := e = clear ∨ e = shutdown

instance (e : Event) : Decidable e.Clears := inferInstanceAs (Decidable (_ ∨ _))

theorem clears_or_remove {e : Event} {op : Operation} {w : Worker} (hop : op ∈ e.operations)
    (hdrops : op.Drops w) : e.Clears ∨ ∃ cycle, e = .remove cycle w := by
  cases e with
  | register v =>
    obtain rfl := List.mem_singleton.mp hop
    contradiction
  | clear => exact .inl (.inl rfl)
  | shutdown => exact .inl (.inr rfl)
  | begin flight => contradiction
  | remove cycle v =>
    obtain rfl := List.mem_singleton.mp hop
    obtain rfl := List.mem_singleton.mp hdrops
    exact .inr ⟨cycle, rfl⟩

/-- The cycles that some events begin, each at its number. -/
def flights (events : List Event) : List Flight := events.flatMap begun

theorem flights_append (first last : List Event) :
    flights (first ++ last) = flights first ++ flights last :=
  List.flatMap_append

theorem flights_append_register (first last : List Event) (w : Worker) :
    flights (first ++ .register w :: last) = flights (first ++ last) := by
  simp [flights, begun]

end Event

namespace Shared

variable {σ : Type} [WorkerStore σ]

/-- A snapshot lists the registry as it is. A cycle removes only what it judged, in any order and as
often as it likes. -/
def Allows (s : Shared σ) : Event → Prop
  | .begin flight => flight.snapshot.Perm (WorkerStore.snapshot s.store)
  | .remove cycle w => ∃ flight ∈ s.flights[cycle]?, w ∈ flight.unmeasurable
  | _ => True

instance (s : Shared σ) : (e : Event) → Decidable (s.Allows e)
  | .begin flight => inferInstanceAs (Decidable (flight.snapshot.Perm _))
  | .remove cycle w =>
    inferInstanceAs (Decidable (∃ flight ∈ s.flights[cycle]?, w ∈ flight.unmeasurable))
  | .register _ | .clear | .shutdown => isTrue trivial

def after (s : Shared σ) (e : Event) : Shared σ where
  store := Operation.applyAll e.operations s.store
  flights := s.flights ++ e.begun

def step (s : Shared σ) (e : Event) : Option (Shared σ) :=
  if s.Allows e then some (s.after e) else none

def run (s : Shared σ) : List Event → Option (Shared σ)
  | [] => some s
  | e :: events => (s.step e).bind (run · events)

/-! ## Steps and runs -/

variable {s t : Shared σ}

theorem step_eq_some_iff {e : Event} : s.step e = some t ↔ s.Allows e ∧ t = s.after e := by
  unfold step
  split
  · next h => simp [h, eq_comm]
  · next h => simp [h]

theorem run_cons_iff {e : Event} {events : List Event} :
    s.run (e :: events) = some t ↔ s.Allows e ∧ (s.after e).run events = some t := by
  simp only [run, Option.bind_eq_some_iff, step_eq_some_iff]
  constructor
  · rintro ⟨_, ⟨hallowed, rfl⟩, hrun⟩
    exact ⟨hallowed, hrun⟩
  · rintro ⟨hallowed, hrun⟩
    exact ⟨_, ⟨hallowed, rfl⟩, hrun⟩

theorem run_append_iff {first rest : List Event} :
    s.run (first ++ rest) = some t ↔ ∃ u, s.run first = some u ∧ u.run rest = some t := by
  induction first generalizing s with
  | nil => simp [run]
  | cons e first ih => simp [run_cons_iff, ih, and_assoc]

theorem store_run {events : List Event} (h : s.run events = some t) :
    t.store = Operation.applyAll (events.flatMap Event.operations) s.store := by
  induction events generalizing s with
  | nil =>
    obtain rfl := Option.some.inj h
    rfl
  | cons e events ih =>
    obtain ⟨-, h⟩ := run_cons_iff.mp h
    rw [ih h, List.flatMap_cons, Operation.applyAll_append]
    rfl

theorem flights_run {events : List Event} (h : s.run events = some t) :
    t.flights = s.flights ++ Event.flights events := by
  induction events generalizing s with
  | nil =>
    obtain rfl := Option.some.inj h
    simp [Event.flights]
  | cons e events ih =>
    obtain ⟨-, h⟩ := run_cons_iff.mp h
    rw [ih h, Event.flights, Event.flights, List.flatMap_cons, after, List.append_assoc]

theorem exists_state_before {first rest : List Event} {e : Event}
    (h : s.run (first ++ e :: rest) = some t) :
    ∃ u, s.run first = some u ∧ u.Allows e := by
  obtain ⟨u, hfirst, hrest⟩ := run_append_iff.mp h
  exact ⟨u, hfirst, (run_cons_iff.mp hrest).1⟩

theorem judged_of_remove {start : Shared σ} (fresh : start.flights = [])
    {first last : List Event} {cycle : Nat} {w : Worker}
    (h : start.run (first ++ .remove cycle w :: last) = some t) :
    ∃ flight, (Event.flights first)[cycle]? = some flight ∧ w ∈ flight.snapshot ∧
      w ∈ flight.unmeasurable := by
  obtain ⟨u, hfirst, flight, hflight, hw⟩ := exists_state_before h
  rw [flights_run hfirst, fresh, List.nil_append] at hflight
  exact ⟨flight, hflight, flight.judged.mem hw, hw⟩

/-! ## What stays in the registry -/

variable [LawfulStore σ]

theorem unreplaced_step {e : Event} (h : s.step e = some t) {id : WorkerId} {old new : Worker}
    (hold : WorkerStore.get? id s.store = some old)
    (hnew : WorkerStore.get? id t.store = some new) : new = old := by
  obtain ⟨-, rfl⟩ := step_eq_some_iff.mp h
  rcases e.operations_eq with hnone | ⟨op, hop⟩
  · rw [after, hnone, Operation.applyAll_nil, hold] at hnew
    exact (Option.some.inj hnew).symm
  · rw [after, hop, Operation.applyAll_cons, Operation.applyAll_nil] at hnew
    exact Operation.unreplaced hold hnew

theorem get?_run {events : List Event} (h : s.run events = some t) {w : Worker}
    (held : WorkerStore.get? w.id s.store = some w) (uncleared : ∀ e ∈ events, ¬ e.Clears)
    (unremoved : ∀ cycle, .remove cycle w ∉ events) :
    WorkerStore.get? w.id t.store = some w := by
  -- The registry has only seen the operations of the events.
  rw [store_run h]
  apply Operation.get?_applyAll held
  intro op hop hdrops
  obtain ⟨e, he, hop⟩ := List.mem_flatMap.mp hop
  rcases Event.clears_or_remove hop hdrops with hclears | ⟨cycle, rfl⟩
  · exact uncleared e he hclears
  · exact unremoved cycle he

/-- A worker that was registered with success stays as it is until everything is dropped or a cycle
that has listed it removes it for want of memory. No event replaces an entry. -/
theorem registered_until_dropped {start : Shared σ} (fresh : start.flights = [])
    {before rest : List Event} (reached : start.run before = some s) {w : Worker}
    (inserted : (register w s.store).1 = true) (continued : s.run (.register w :: rest) = some t) :
    (WorkerStore.get? w.id t.store = some w ∨ (∃ e ∈ rest, e.Clears) ∨
      ∃ first cycle last flight, rest = first ++ .remove cycle w :: last ∧
        (Event.flights (before ++ first))[cycle]? = some flight ∧
        w ∈ flight.snapshot ∧ w ∈ flight.unmeasurable) ∧
    ((∀ flight ∈ Event.flights (before ++ rest),
        w ∈ flight.snapshot → w ∉ flight.unmeasurable) →
      (∀ e ∈ rest, ¬ e.Clears) → WorkerStore.get? w.id t.store = some w) ∧
    (∀ (u v : Shared σ) (e : Event), u.step e = some v →
      ∀ id old new, WorkerStore.get? id u.store = some old →
        WorkerStore.get? id v.store = some new → new = old) := by
  have hregistered : WorkerStore.get? w.id (s.after (.register w)).store = some w :=
    get?_register_self inserted
  obtain ⟨-, hrest⟩ := run_cons_iff.mp continued
  have hjudged : ∀ first cycle last, rest = first ++ .remove cycle w :: last →
      ∃ flight, (Event.flights (before ++ first))[cycle]? = some flight ∧
        w ∈ flight.snapshot ∧ w ∈ flight.unmeasurable := by
    rintro first cycle last rfl
    have hrun := run_append_iff.mpr ⟨s, reached, continued⟩
    rw [← List.cons_append, ← List.append_assoc] at hrun
    have hflight := judged_of_remove fresh hrun
    rwa [Event.flights_append_register] at hflight
  refine ⟨?_, ?_, ?_⟩
  · by_cases hclears : ∃ e ∈ rest, e.Clears
    · exact .inr (.inl hclears)
    by_cases hremoved : ∃ cycle, .remove cycle w ∈ rest
    · obtain ⟨cycle, hmem⟩ := hremoved
      obtain ⟨first, last, hsplit⟩ := List.append_of_mem hmem
      obtain ⟨flight, hflight⟩ := hjudged first cycle last hsplit
      exact .inr (.inr ⟨first, cycle, last, flight, hsplit, hflight⟩)
    · left
      apply get?_run hrest hregistered
      · exact fun e he hc => hclears ⟨e, he, hc⟩
      · exact fun cycle hmem => hremoved ⟨cycle, hmem⟩
  · intro hmeasured huncleared
    apply get?_run hrest hregistered huncleared
    intro cycle hmem
    obtain ⟨first, last, rfl⟩ := List.append_of_mem hmem
    obtain ⟨flight, hflight, hlisted, hno⟩ := hjudged first cycle last rfl
    refine hmeasured flight ?_ hlisted hno
    rw [← List.append_assoc, Event.flights_append]
    exact List.mem_append_left _ (List.mem_of_getElem? hflight)
  · intro u v e hstep id old new hold hnew
    exact unreplaced_step hstep hold hnew

/-- One cycle removes an old entry while another lists the new one and finds it measurable. -/
theorem registered_until_dropped_overlapping :
    let old : Worker := { id := 1, pid := 100 }
    let new : Worker := { id := 1, pid := 101 }
    let start : Shared ShardedStore := ⟨WorkerStore.empty, []⟩
    let before : List Event := [.register old, .begin ⟨[old], [old], .refl _⟩, .clear]
    let rest : List Event := [.begin ⟨[new], [], List.nil_sublist _⟩, .remove 0 old, .register old]
    ∃ t, start.run (before ++ .register new :: rest) = some t ∧
      WorkerStore.get? new.id t.store = some new := by
  intro old new start before rest
  let s : Shared ShardedStore := ⟨WorkerStore.empty, Event.flights before⟩
  let t : Shared ShardedStore :=
    ⟨(register new WorkerStore.empty).2, Event.flights (before ++ rest)⟩
  have reached : start.run before = some s := rfl
  have inserted : (register new s.store).1 = true := rfl
  have continued : s.run (.register new :: rest) = some t := rfl
  obtain ⟨-, hmeasured, -⟩ := registered_until_dropped rfl reached inserted continued
  refine ⟨t, run_append_iff.mpr ⟨s, reached, continued⟩, hmeasured ?_ ?_⟩
  · decide
  · decide

/-! ## A collection cycle as events -/

theorem run_removals {cycle : Nat} {flight : Flight} (hflight : s.flights[cycle]? = some flight)
    {stale : List Worker} (hstale : ∀ w ∈ stale, w ∈ flight.unmeasurable) :
    s.run (stale.map (.remove cycle)) = some { s with store := (prune stale s.store).2 } := by
  induction stale generalizing s with
  | nil => rw [snd_prune, LawfulStore.removeStale_nil]; rfl
  | cons w stale ih =>
    rw [List.forall_mem_cons] at hstale
    rw [List.map_cons, run_cons_iff]
    refine ⟨⟨flight, hflight, hstale.1⟩, ?_⟩
    have hafter : s.after (.remove cycle w) = { s with store := (prune [w] s.store).2 } := by
      unfold after
      congr 1
      exact List.append_nil _
    rw [hafter, snd_prune_cons w stale]
    exact ih hflight hstale.2

/-- A cycle is its snapshot and its removals, with the events of the others in between. -/
theorem run_cycle (machine : Machine) (now : Instant) (platform : Platform) (during : σ → σ)
    {order : List Worker} (listed : order.Perm (WorkerStore.snapshot s.store))
    {others : List Event} :
    let cycle := Cycle.ofSnapshot machine now platform during order s.store
    let flight := Flight.ofMetrics cycle.metrics
    (s.after (.begin flight)).run others = some t →
    t.store = (if platform.supportsAccounting then during s.store else s.store) →
    s.run (.begin flight :: others ++ flight.unmeasurable.map (.remove s.flights.length)) =
      some { t with store := cycle.store } := by
  intro cycle flight hothers hstore
  have hallowed : s.Allows (.begin flight) := by
    change (cycle.metrics.map (·.worker)).Perm _
    rw [Cycle.workers_ofSnapshot]
    exact listed
  have hflight : t.flights[s.flights.length]? = some flight := by
    rw [flights_run hothers]
    simp [after, Event.begun]
  rw [run_append_iff]
  refine ⟨t, run_cons_iff.mpr ⟨hallowed, hothers⟩, ?_⟩
  rw [run_removals hflight fun w hw => hw, hstore, Cycle.store_ofSnapshot]
  rfl

end Shared

end WorkerMemory
