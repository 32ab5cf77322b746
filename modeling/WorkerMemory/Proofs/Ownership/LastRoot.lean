import WorkerMemory.Proofs.Ownership
import WorkerMemory.Proofs.ProcessTable.Breadth

/-! # Roots that take processes from each other

A root that is not running takes nothing, wherever it stands in the list.
-/

namespace WorkerMemory.ProcessTable

open Relation

variable {table : ProcessTable} {roots : List Pid} {p root : Pid}

theorem contains_iff_exists_link : table.contains p ↔ ∃ l ∈ table.links, l.pid = p := by
  simp [contains]

theorem contains_of_claims (h : table.Claims p root) : table.contains p := by
  obtain ⟨hlive, rfl | hbelow⟩ := h
  · exact hlive
  · obtain ⟨parent, -, hlink⟩ := TransGen.tail'_iff.mp hbelow
    exact contains_iff_exists_link.mpr ⟨_, hlink, rfl⟩

theorem owner?_append (table : ProcessTable) (before after : List Pid) (p : Pid) :
    table.owner? (before ++ after) p = (table.owner? after p).or (table.owner? before p) :=
  getLast?_filter_append (table.Claims p) before after

theorem owner?_eq_none_iff : table.owner? roots p = none ↔ ∀ root ∈ roots, ¬ table.Claims p root :=
  getLast?_filter_eq_none_iff

theorem owner?_eq_some_iff_append :
    table.owner? roots p = some root ↔ ∃ before after, roots = before ++ root :: after ∧
      table.Claims p root ∧ ∀ later ∈ after, ¬ table.Claims p later :=
  getLast?_filter_eq_some_iff

theorem claims_iff_isParent :
    table.Claims p root ↔ table.contains root ∧ (p = root ∨ TransGen table.IsParent root p) := by
  rw [Claims, reaches_iff_isParent]

/-- Who owns a process is the last root of the list that runs and reaches it, so a root owns itself
as long as no other one that runs and comes after it reaches it. -/
theorem owners_last_live (table : ProcessTable) (roots : List Pid) :
    let owners := table.owners roots
    let reaches (root p : Pid) : Prop := p = root ∨ TransGen table.IsParent root p
    (∀ p, p ∈ owners ↔ ∃ root ∈ roots, table.contains root ∧ reaches root p) ∧
    (∀ p root, owners[p]? = some root ↔ ∃ before after, roots = before ++ root :: after ∧
      (table.contains root ∧ reaches root p) ∧
      ∀ later ∈ after, ¬ (table.contains later ∧ reaches later p)) ∧
    (∀ p root, owners[p]? = some root →
      table.contains p ∧ root ∈ roots ∧ table.contains root) ∧
    ∀ before root after, roots = before ++ root :: after → root ∉ after → table.contains root →
      (owners[root]? = some root ↔
        ∀ later ∈ after, later ≠ root → ¬ (table.contains later ∧ reaches later root)) := by
  intro owners reaches
  simp only [owners, reaches, ← claims_iff_isParent, Std.TreeMap.mem_iff_isSome_getElem?,
    getElem?_owners]
  refine ⟨fun p => isSome_owner?_iff, fun p root => owner?_eq_some_iff_append, ?_, ?_⟩
  · intro p root howner
    obtain ⟨hroot, hclaims⟩ := owner?_mem howner
    exact ⟨contains_of_claims hclaims, hroot, hclaims.1⟩
  · rintro before root after rfl hlast hlive
    have hself : table.Claims root root := ⟨hlive, .inl rfl⟩
    rw [owner?_append, owner?_cons, if_pos hself]
    constructor
    · intro howner later hlater hne hclaims
      obtain ⟨owner, hsome⟩ := Option.isSome_iff_exists.mp
        (isSome_owner?_iff.mpr ⟨later, hlater, hclaims⟩)
      rw [hsome] at howner
      obtain rfl : owner = root := Option.some.inj howner
      exact hlast (owner?_mem hsome).1
    · intro hlater
      have hnone : table.owner? after root = none := owner?_eq_none_iff.mpr fun later h =>
        hlater later h fun heq => hlast (heq ▸ h)
      rw [hnone]
      rfl

/-- Process 10 is the child of 99, which comes later in the list but does not run. -/
theorem dead_root_takes_nothing :
    let table : ProcessTable := ⟨[⟨10, some 99⟩]⟩
    table.contains 10 = true ∧
    ¬ ((table.owners [10, 99])[(10 : Pid)]? = some 10 ↔
        ∀ later ∈ [(99 : Pid)], later ≠ 10 → ¬ (10 = later ∨ TransGen table.IsParent later 10)) := by
  intro table
  refine ⟨by decide, fun hiff => ?_⟩
  have howner : (table.owners [10, 99])[(10 : Pid)]? = some 10 := by decide +kernel
  have hlink : table.IsParent 99 10 := ⟨List.mem_singleton_self _, by decide⟩
  exact hiff.mp howner 99 (List.mem_singleton_self _) (by decide) (.inr (.single hlink))

end WorkerMemory.ProcessTable
