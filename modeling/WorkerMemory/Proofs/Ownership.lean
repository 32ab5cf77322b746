import WorkerMemory.Ownership
import WorkerMemory.Proofs.Last
import WorkerMemory.Proofs.ProcessTable.Reach

/-! # The last live root above a process owns it -/

namespace WorkerMemory.ProcessTable

/-- A live root that is `p` or lies above it. -/
def Claims (table : ProcessTable) (p root : Pid) : Prop :=
  table.contains root ∧ table.Reaches root p

instance (table : ProcessTable) (p root : Pid) : Decidable (table.Claims p root) :=
  inferInstanceAs (Decidable (_ ∧ _))

/-- The last of the roots that claims `p`. -/
def owner? (table : ProcessTable) (roots : List Pid) (p : Pid) : Option Pid :=
  (roots.filter (table.Claims p)).getLast?

theorem owner?_cons (table : ProcessTable) (root : Pid) (roots : List Pid) (p : Pid) :
    table.owner? (root :: roots) p =
      (table.owner? roots p).or (if table.Claims p root then some root else none) :=
  getLast?_filter_cons (table.Claims p) root roots

/-! ## What an owner depends on -/

theorem owner?_mem {table : ProcessTable} {roots : List Pid} {p root : Pid}
    (h : table.owner? roots p = some root) : root ∈ roots ∧ table.Claims p root := by
  have hlast := List.mem_of_getLast? h
  rw [List.mem_filter] at hlast
  exact ⟨hlast.1, by simpa using hlast.2⟩

theorem isSome_owner?_iff {table : ProcessTable} {roots : List Pid} {p : Pid} :
    (table.owner? roots p).isSome ↔ ∃ root ∈ roots, table.Claims p root := by
  unfold owner?
  rw [List.getLast?_isSome, Ne, List.filter_eq_nil_iff]
  simp

theorem owner?_filter {table : ProcessTable} {roots : List Pid} {p : Pid} {keep : Pid → Bool}
    (kept : ∀ root, table.owner? roots p = some root → keep root) :
    table.owner? (roots.filter keep) p = table.owner? roots p := by
  induction roots with
  | nil => rfl
  | cons root roots ih =>
    rw [owner?_cons] at kept ⊢
    cases hrest : table.owner? roots p with
    | some later =>
      -- A later root owns `p`, and is kept.
      simp only [hrest, Option.some_or] at ih kept ⊢
      have ih := ih kept
      rw [List.filter_cons]
      split
      · rw [owner?_cons, ih, Option.some_or]
      · exact ih
    | none =>
      simp only [hrest, Option.none_or] at ih kept ⊢
      have ih := ih (by simp)
      rw [List.filter_cons]
      split
      · rw [owner?_cons, ih, Option.none_or]
      · next hdropped =>
        have hclaims : ¬ table.Claims p root := by
          intro hclaims
          rw [if_pos hclaims] at kept
          exact hdropped (kept root rfl)
        rw [ih, if_neg hclaims]

/-! ## The walk over the roots -/

theorem getElem?_foldl_insert (root : Pid) (pids : List Pid) (owners : Ownership) (p : Pid) :
    (pids.foldl (fun owners pid => owners.insert pid root) owners)[p]? =
      if p ∈ pids then some root else owners[p]? := by
  induction pids generalizing owners with
  | nil => simp
  | cons pid pids ih =>
    rw [List.foldl_cons, ih, Std.TreeMap.getElem?_insert]
    by_cases hp : p = pid
    · simp [hp]
    · simp [hp, Ne.symm hp]

theorem getElem?_claim (table : ProcessTable) (owners : Ownership) (root p : Pid) :
    (table.claim owners root)[p]? = if table.Claims p root then some root else owners[p]? := by
  unfold claim Claims
  by_cases hlive : table.contains root
  · rw [if_pos hlive, Std.TreeMap.getElem?_insert, getElem?_foldl_insert]
    by_cases hp : p = root
    · simp [hp, hlive, Reaches]
    · simp [hp, Ne.symm hp, hlive, reaches_iff]
  · simp [hlive]

theorem getElem?_foldl_claim (table : ProcessTable) (roots : List Pid) (owners : Ownership)
    (p : Pid) :
    (roots.foldl table.claim owners)[p]? = (table.owner? roots p).or owners[p]? := by
  induction roots generalizing owners with
  | nil => rfl
  | cons root roots ih =>
    rw [List.foldl_cons, ih, owner?_cons, Option.or_assoc, getElem?_claim]
    congr 1
    split <;> rfl

theorem getElem?_owners (table : ProcessTable) (roots : List Pid) (p : Pid) :
    (table.owners roots)[p]? = table.owner? roots p := by
  unfold owners
  rw [getElem?_foldl_claim, Std.TreeMap.getElem?_emptyc, Option.or_none]

theorem getElem?_owners_singleton {table : ProcessTable} {r p root : Pid} :
    (table.owners [r])[p]? = some root ↔ root = r ∧ table.Claims p r := by
  rw [getElem?_owners, owner?_cons]
  by_cases h : table.Claims p r <;> simp [h, owner?, eq_comm]

theorem mem_owners_singleton {table : ProcessTable} {r p : Pid} :
    p ∈ table.owners [r] ↔ table.Claims p r := by
  rw [Std.TreeMap.mem_iff_isSome_getElem?, Option.isSome_iff_exists]
  simp only [getElem?_owners_singleton, exists_eq_left]

end WorkerMemory.ProcessTable
