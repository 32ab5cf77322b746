import Mathlib.Algebra.GroupWithZero.Nat
import Mathlib.Algebra.Order.BigOperators.Group.List
import Mathlib.Algebra.Order.Group.Nat
import Mathlib.Data.List.Nodup
import WorkerMemory.Proofs.Cycle.Metrics

/-! # No memory is lost and none counted twice

Each process with an owner has just one, so the figures of all roots together are the memory of all
processes that some live root reaches.
-/

namespace WorkerMemory

/-! ## Sums over all roots -/

theorem sum_share {owner : Option Pid} {roots : List Pid} (distinct : roots.Nodup)
    (covered : ∀ root, owner = some root → root ∈ roots) (n : Nat) :
    (roots.map fun root => if owner = some root then n else 0).sum =
      if owner.isSome then n else 0 := by
  cases owner with
  | none => simp
  | some owner =>
    have hother : ∀ root, root ≠ owner → root ∈ roots →
        (if some owner = some root then n else 0) = 0 := by
      intro root hne _
      rw [if_neg]
      intro heq
      exact hne (Option.some.inj heq).symm
    rw [List.sum_map_eq_nsmul_single owner _ hother,
      List.count_eq_one_of_mem distinct (covered owner rfl)]
    simp

theorem sum_ownedBy {owner : Pid → Option Pid} {roots : List Pid} (distinct : roots.Nodup)
    {samples : List (Pid × KiB)}
    (covered : ∀ sample ∈ samples, ∀ root, owner sample.1 = some root → root ∈ roots) :
    (roots.map fun root => sumKb (ownedBy owner root samples)).sum =
      sumKb (samples.filter fun sample => (owner sample.1).isSome) := by
  induction samples with
  | nil => simp [ownedBy, sumKb]
  | cons sample samples ih =>
    rw [List.forall_mem_cons] at covered
    -- Among distinct roots just one, if any, takes the first sample.
    have hsplit (root : Pid) : sumKb (ownedBy owner root (sample :: samples)) =
        (if owner sample.1 = some root then sample.2.toNat else 0) +
          sumKb (ownedBy owner root samples) := by
      rw [ownedBy_cons]
      split
      · rfl
      · rw [Nat.zero_add]
    simp only [hsplit, List.sum_map_add, ih covered.2, sum_share distinct covered.1]
    rw [List.filter_cons]
    split
    · rfl
    · rw [Nat.zero_add]

namespace Survey

/-! ## The entries of a survey -/

variable {table : ProcessTable} {memory : Samples} {now : Instant} {platform : Platform}
  {roots : List Pid} {survey : Survey}
  (hsurvey : take (.still table memory) now platform roots = some survey)

include hsurvey

theorem getElem?_stats (root : Pid) :
    survey.stats[root]? =
      if ownedBy (table.owner? roots) root memory.toList = [] then none
      else some {
        kb := saturating (sumKb (ownedBy (table.owner? roots) root memory.toList))
        observedAt := now } := by
  have supported : platform.supportsAccounting = true := by
    rw [← isSome_take (.still table memory) now platform roots, hsurvey]
    rfl
  have hstat := stat_take_still table memory now platform roots root
  rw [hsurvey, Option.bind_some] at hstat
  rw [hstat]
  simp only [supported, true_and, ne_eq, ite_not]

theorem mem_stats_iff {root : Pid} :
    root ∈ survey.stats ↔ ∃ sample ∈ memory.toList, table.owner? roots sample.1 = some root := by
  rw [Std.TreeMap.mem_iff_isSome_getElem?, getElem?_stats hsurvey, ← ownedBy_ne_nil_iff]
  split <;> simp_all

theorem figures_stats :
    survey.stats.toList.map (·.2.kb.toNat) = survey.stats.keys.map fun root =>
      min (sumKb (ownedBy (table.owner? roots) root memory.toList)) (UInt64.size - 1) := by
  rw [← Std.TreeMap.map_fst_toList_eq_keys, List.map_map]
  apply List.map_congr_left
  rintro ⟨root, stat⟩ hentry
  have hstat := Std.TreeMap.mem_toList_iff_getElem?_eq_some.mp hentry
  rw [getElem?_stats hsurvey] at hstat
  split at hstat
  · contradiction
  · obtain rfl := Option.some.inj hstat
    exact toNat_saturating _

theorem sum_keys :
    (survey.stats.keys.map fun root =>
      sumKb (ownedBy (table.owner? roots) root memory.toList)).sum =
      sumKb (memory.toList.filter fun sample => ∃ root ∈ roots, table.Claims sample.1 root) := by
  rw [sum_ownedBy]
  · congr 1
    apply List.filter_congr
    intro sample _
    rw [Bool.eq_iff_iff, ProcessTable.isSome_owner?_iff, decide_eq_true_iff]
  · exact Std.TreeMap.distinct_keys.imp (by simp)
  · intro sample hsample root howner
    exact Std.TreeMap.mem_keys.mpr ((mem_stats_iff hsurvey).mpr ⟨sample, hsample, howner⟩)

omit hsurvey

/-! ## The sum of a survey -/

/-- The figures of all roots together never exceed the memory of the processes that some live root
reaches, and are just that as long as one figure could hold it. Only live roots have a figure. -/
theorem memory_conserved (table : ProcessTable) (memory : Samples) (now : Instant)
    (supported : platform.supportsAccounting) (roots : List Pid) :
    let total := sumKb
      (memory.toList.filter fun sample => ∃ root ∈ roots, table.Claims sample.1 root)
    ∃ survey, take (.still table memory) now platform roots = some survey ∧
      (∀ root ∈ survey.stats, root ∈ roots ∧ table.contains root) ∧
      (survey.stats.toList.map (·.2.kb.toNat)).sum ≤ total ∧
      (total < UInt64.size → (survey.stats.toList.map (·.2.kb.toNat)).sum = total) := by
  intro total
  have hsome : (take (.still table memory) now platform roots).isSome := by
    rwa [isSome_take]
  obtain ⟨survey, hsurvey⟩ := Option.isSome_iff_exists.mp hsome
  have htotal := sum_keys hsurvey
  refine ⟨survey, hsurvey, ?_, ?_, ?_⟩
  · intro root hroot
    obtain ⟨sample, -, howner⟩ := (mem_stats_iff hsurvey).mp hroot
    obtain ⟨hmem, hlive, -⟩ := ProcessTable.owner?_mem howner
    exact ⟨hmem, hlive⟩
  · rw [figures_stats hsurvey]
    refine le_trans (List.sum_le_sum ?_) htotal.le
    exact fun root _ => Nat.min_le_left ..
  · intro fits
    rw [figures_stats hsurvey]
    unfold total at fits ⊢
    rw [← htotal] at fits ⊢
    -- No figure is stopped: each is at most the sum of all.
    congr 1
    apply List.map_congr_left
    intro root hroot
    have hle := List.le_sum_of_mem (List.mem_map_of_mem
      (f := fun root => sumKb (ownedBy (table.owner? roots) root memory.toList)) hroot)
    exact Nat.min_eq_left (by omega)

/-- Two nested roots share the largest sum that one figure can hold. A process with two parents
counts once, and one that no root reaches counts for nobody. -/
theorem memory_conserved_to_the_brim :
    let table : ProcessTable :=
      ⟨[⟨10, some 10⟩, ⟨11, some 10⟩, ⟨12, some 11⟩, ⟨12, some 10⟩]⟩
    let memory : Samples :=
      (((∅ : Samples).insert 10 0x8000000000000000).insert 12 0x7FFFFFFFFFFFFFFF).insert 50 7
    let roots : List Pid := [10, 99, 11]
    let total := sumKb
      (memory.toList.filter fun sample => ∃ root ∈ roots, table.Claims sample.1 root)
    Platform.linux.supportsAccounting = true ∧ total < UInt64.size ∧
    ∃ survey, take (.still table memory) .epoch .linux roots = some survey ∧
      (survey.stats.toList.map (·.2.kb.toNat)).sum = 0xFFFFFFFFFFFFFFFF := by
  intro table memory roots total
  have supported : Platform.linux.supportsAccounting = true := rfl
  have htotal : total = 0xFFFFFFFFFFFFFFFF := by decide +kernel
  have fits : total < UInt64.size := by
    rw [htotal]
    decide
  obtain ⟨survey, hsurvey, -, -, hsum⟩ := memory_conserved table memory .epoch supported roots
  exact ⟨supported, fits, survey, hsurvey, htotal ▸ hsum fits⟩

end Survey

end WorkerMemory
