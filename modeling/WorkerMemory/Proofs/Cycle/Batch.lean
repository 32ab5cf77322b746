import WorkerMemory.Proofs.Cycle.Figure
import WorkerMemory.Proofs.Ownership.Separate

/-! # All roots at once, or each on its own

Roots with separate trees do not see each other: one survey of all of them finds for each what a
survey of it alone finds.
-/

namespace WorkerMemory.Survey

variable {table : ProcessTable} {memory : Samples} {platform : Platform} {roots roots' : List Pid}

theorem kb?_of_separate (distinct : (table.links.map (·.pid)).Nodup) (now now' : Instant)
    (separate : table.Separate roots) (separate' : table.Separate roots') {root : Pid}
    (same : root ∈ roots ↔ root ∈ roots') :
    kb? (take (.still table memory) now platform roots) root =
      kb? (take (.still table memory) now' platform roots') root := by
  apply kb?_congr
  intro _ sample _
  rw [separate.owner?_eq_some_iff distinct, separate'.owner?_eq_some_iff distinct, same]

/-- Together, separate roots own what each owns alone, and no two of them the same process. So each
has the memory it has alone, in any order of the roots, however often one is listed, and whatever
other roots come or go. -/
theorem batch_eq_alone (table : ProcessTable) (distinct : (table.links.map (·.pid)).Nodup)
    (memory : Samples) (platform : Platform) (now now' : Instant) {roots : List Pid}
    (separate : table.Separate roots) :
    let kbOf (now : Instant) (roots : List Pid) :=
      kb? (take (.still table memory) now platform roots)
    (∀ p root : Pid, (table.owners roots)[p]? = some root ↔
      ∃ r ∈ roots, (table.owners [r])[p]? = some root) ∧
    (∀ r ∈ roots, ∀ s ∈ roots, r ≠ s → ∀ p ∈ table.owners [r], p ∉ table.owners [s]) ∧
    (∀ r ∈ roots, kbOf now roots r = kbOf now' [r] r) ∧
    (∀ roots', (∀ r, r ∈ roots' ↔ r ∈ roots) →
      (∀ p : Pid, (table.owners roots')[p]? = (table.owners roots)[p]?) ∧
      ∀ root, kbOf now' roots' root = kbOf now roots root) ∧
    ∀ roots', table.Separate roots' → ∀ w : Worker, w.pid ∈ roots → w.pid ∈ roots' →
      (metric (take (.still table memory) now' platform roots') w).figure =
        (metric (take (.still table memory) now platform roots) w).figure := by
  intro kbOf
  refine ⟨?_, ?_, ?_, ?_, ?_⟩
  · intro p root
    exact separate.getElem?_owners distinct
  · intro r hr s hs hne p hp hp'
    rw [ProcessTable.mem_owners_singleton] at hp hp'
    exact hne (separate.claims_unique distinct hr hs hp hp')
  · intro r hr
    exact kb?_of_separate distinct now now' separate (.singleton table r) (by simp [hr])
  · intro roots' hsame
    have separate' : table.Separate roots' := separate.of_subset fun r => (hsame r).mp
    constructor
    · intro p
      ext root
      rw [separate.getElem?_owners distinct, separate'.getElem?_owners distinct]
      simp only [hsame]
    · intro root
      exact kb?_of_separate distinct now' now separate' separate (hsame root)
  · intro roots' separate' w hw hw'
    rw [figure_metric, figure_metric,
      kb?_of_separate distinct now' now separate' separate (iff_of_true hw' hw)]

/-- A process on a cycle of parents, a dead root and one listed twice; the worker of the first root
does not notice when all others go. -/
theorem batch_eq_alone_on_cycle :
    let table : ProcessTable :=
      ⟨[⟨10, none⟩, ⟨11, some 10⟩, ⟨20, some 21⟩, ⟨21, some 20⟩, ⟨30, some 30⟩]⟩
    let memory : Samples := (((∅ : Samples).insert 10 3).insert 20 4).insert 30 5
    let roots : List Pid := [10, 21, 99, 30, 21]
    let w : Worker := { id := 1, pid := 10 }
    (table.links.map (·.pid)).Nodup ∧ table.Separate roots ∧ table.Separate [10] ∧
    kb? (take (.still table memory) .epoch .linux roots) 21 = some 4 ∧
    (metric (take (.still table memory) .epoch .linux [10]) w).figure =
      (metric (take (.still table memory) .epoch .linux roots) w).figure := by
  intro table memory roots w
  have distinct : (table.links.map (·.pid)).Nodup := by decide
  have separate : table.Separate roots := by decide +kernel
  obtain ⟨-, -, halone, -, hothers⟩ :=
    batch_eq_alone table distinct memory .linux .epoch .epoch separate
  refine ⟨distinct, separate, .singleton table 10, ?_, ?_⟩
  · exact (halone 21 (by decide)).trans (by decide +kernel)
  · exact hothers [10] (.singleton table 10) w (by decide) (by decide)

end WorkerMemory.Survey
