import Mathlib.Data.List.Sort
import WorkerMemory.Proofs.Text.Numeral
import WorkerMemory.Proofs.Text.Split
import WorkerMemory.Sampling.Request

/-! # What `ps` is asked for

The ids that name a process, once each and in ascending order. The request hangs on which these are
and on nothing else, and they can be read back from it.
-/

namespace WorkerMemory.Request

open Text

/-! ## The ids -/

theorem pairwise_eraseDups {l : List Pid} (sorted : l.Pairwise (· ≤ ·)) :
    l.eraseDups.Pairwise (· < ·) := by
  match l with
  | [] => simp
  | p :: l =>
    rw [List.pairwise_cons] at sorted
    rw [List.eraseDups_cons, List.pairwise_cons]
    constructor
    · intro q hq
      rw [List.mem_eraseDups, List.mem_filter] at hq
      exact Int64.lt_of_le_of_ne (sorted.1 q hq.1) fun heq => by simp [heq] at hq
    · exact pairwise_eraseDups (sorted.2.sublist List.filter_sublist)
termination_by l.length
decreasing_by
  exact Nat.lt_succ_of_le (List.length_filter_le _ _)

theorem mem_namable {pids : List Pid} {p : Pid} : p ∈ namable pids ↔ 0 < p ∧ p ∈ pids := by
  unfold namable
  rw [List.mem_eraseDups, List.mem_mergeSort, List.mem_filter, decide_eq_true_iff, and_comm]

theorem pairwise_namable (pids : List Pid) : (namable pids).Pairwise (· < ·) := by
  apply pairwise_eraseDups
  have hsorted : ((pids.filter (0 < ·)).mergeSort (· ≤ ·)).Pairwise
      fun p q => decide (p ≤ q) = true := by
    apply List.pairwise_mergeSort
    · intro p q r hpq hqr
      rw [decide_eq_true_iff] at hpq hqr ⊢
      exact Int64.le_trans hpq hqr
    · intro p q
      simpa using Int64.le_total p q
  simpa using hsorted

theorem namable_congr {pids pids' : List Pid} (same : ∀ p, 0 < p → (p ∈ pids ↔ p ∈ pids')) :
    namable pids = namable pids' := by
  apply List.Pairwise.eq_of_mem_iff (pairwise_namable pids) (pairwise_namable pids')
  intro p
  rw [mem_namable, mem_namable]
  exact and_congr_right (same p)

theorem namable_namable (pids : List Pid) : namable (namable pids) = namable pids := by
  apply namable_congr
  intro p hp
  rw [mem_namable, and_iff_right hp]

theorem namable_eq_nil_iff {pids : List Pid} : namable pids = [] ↔ ∀ p ∈ pids, p ≤ 0 := by
  rw [List.eq_nil_iff_forall_not_mem]
  simp only [mem_namable, not_and]
  exact ⟨fun h p hmem => Int64.not_lt.mp fun hp => h p hp hmem,
    fun h p hp hmem => absurd hp (Int64.not_lt.mpr (h p hmem))⟩

/-! ## The arguments -/

/-- The list of ids as it is passed. -/
def listed (pids : List Pid) : String :=
  String.ofList (joinWith ',' ((namable pids).map fun p => Numeral.ofInt p.toInt))

theorem arguments_eq (pids : List Pid) :
    arguments pids =
      if namable pids = [] then none else some ["-o", columns, "-p", listed pids] := by
  unfold arguments listed
  split
  · next h => rw [if_pos h]
  · next h => rw [if_neg h]

theorem read_listed {pids : List Pid} (hne : namable pids ≠ []) :
    (splitOn ',' (listed pids).toList).mapM Numeral.int64? = some (namable pids) := by
  unfold listed
  rw [String.toList_ofList, splitOn_joinWith]
  · simp only [List.mapM_map, Function.comp_def, Numeral.int64?_ofInt]
    change (namable pids).mapM pure = some (namable pids)
    rw [List.mapM_pure, List.map_id']
    rfl
  · intro part hpart
    obtain ⟨p, -, rfl⟩ := List.mem_map.mp hpart
    exact Numeral.notMem_ofInt (by decide) (by decide) p.toInt
  · simpa using hne

/-- The ids in the last argument. -/
def ids? (args : List String) : Option (List Pid) :=
  args.getLast?.bind fun list => (splitOn ',' list.toList).mapM Numeral.int64?

theorem arguments_eq_none_iff {pids : List Pid} : arguments pids = none ↔ ∀ p ∈ pids, p ≤ 0 := by
  rw [arguments_eq, ← namable_eq_nil_iff]
  split <;> simp [*]

theorem ids?_of_arguments {pids : List Pid} {args : List String} (h : arguments pids = some args) :
    ids? args = some (namable pids) := by
  rw [arguments_eq, Option.ite_none_left_eq_some] at h
  obtain ⟨hne, hargs⟩ := h
  obtain rfl := Option.some.inj hargs
  exact read_listed hne

theorem getD_ids? (pids : List Pid) : ((arguments pids).bind ids?).getD [] = namable pids := by
  cases h : arguments pids with
  | none => exact (namable_eq_nil_iff.mpr (arguments_eq_none_iff.mp h)).symm
  | some args => rw [Option.bind_some, ids?_of_arguments h, Option.getD_some]

theorem arguments_eq_iff {pids pids' : List Pid} :
    arguments pids = arguments pids' ↔ ∀ p, 0 < p → (p ∈ pids ↔ p ∈ pids') := by
  constructor
  · intro h p hp
    have hnamable : namable pids = namable pids' := by rw [← getD_ids? pids, ← getD_ids? pids', h]
    have hmem : p ∈ namable pids ↔ p ∈ namable pids' := by rw [hnamable]
    rwa [mem_namable, mem_namable, and_iff_right hp, and_iff_right hp] at hmem
  · intro same
    rw [arguments_eq, arguments_eq, listed, listed, namable_congr same]

/-- The ids are named in one order, each once; what is asked tells which they are, and nothing else
about the list they come from. -/
theorem arguments_canonical (pids : List Pid) :
    (namable pids).Pairwise (· < ·) ∧ (∀ p, p ∈ namable pids ↔ 0 < p ∧ p ∈ pids) ∧
    namable (namable pids) = namable pids ∧
    (arguments pids = none ↔ ∀ p ∈ pids, p ≤ 0) ∧
    (∀ args, arguments pids = some args → ids? args = some (namable pids)) ∧
    ∀ pids', arguments pids = arguments pids' ↔ ∀ p, 0 < p → (p ∈ pids ↔ p ∈ pids') :=
  ⟨pairwise_namable pids, fun _ => mem_namable, namable_namable pids, arguments_eq_none_iff,
    fun _ => ids?_of_arguments, fun _ => arguments_eq_iff⟩

/-! ## On a platform -/

theorem on_eq_some_iff {platform : Platform} {pids : List Pid} {args : List String} :
    on platform pids = some args ↔ platform.supportsAccounting ∧ namable pids ≠ [] ∧
      args = ["-o", columns, "-p", listed pids] := by
  unfold on
  rw [arguments_eq]
  by_cases supported : platform.supportsAccounting <;> by_cases hnone : namable pids = [] <;>
    simp [supported, hnone, eq_comm]

theorem on_congr {platform : Platform} {pids pids' : List Pid}
    (same : ∀ p, 0 < p → (p ∈ pids ↔ p ∈ pids')) : on platform pids = on platform pids' := by
  rw [on, on, arguments_eq_iff.mpr same]

end WorkerMemory.Request
