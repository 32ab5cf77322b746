import Mathlib.Data.List.Nodup
import WorkerMemory.Proofs.Ownership

/-! # Roots with separate trees

Where no process is listed twice, each has one chain of parents, which may end or run in a circle.
Two roots that reach one process both lie on its chain, so one of them reaches the other.
-/

namespace WorkerMemory.ProcessTable

open Relation

/-! ## One chain of parents -/

theorem isChildIn_unique {links : List Link} (distinct : (links.map (·.pid)).Nodup)
    {a b p : Pid} (ha : IsChildIn links a p) (hb : IsChildIn links b p) : a = b := by
  have heq := List.inj_on_of_nodup_map distinct ha hb rfl
  exact Option.some.inj (Link.mk.inj heq).2

theorem reaches_iff_reflTransGen {table : ProcessTable} {root p : Pid} :
    table.Reaches root p ↔ ReflTransGen (IsChildIn table.links) root p :=
  reflTransGen_iff_eq_or_transGen.symm

theorem reaches_total {table : ProcessTable} (distinct : (table.links.map (·.pid)).Nodup)
    {r s p : Pid} (hr : table.Reaches r p) (hs : table.Reaches s p) :
    table.Reaches r s ∨ table.Reaches s r := by
  -- Followed upwards, links lead from a process to one other at most.
  have hup : Relator.RightUnique (Function.swap (IsChildIn table.links)) :=
    fun _ _ _ ha hb => isChildIn_unique distinct ha hb
  rw [reaches_iff_reflTransGen, ← reflTransGen_swap] at hr hs
  rw [reaches_iff_reflTransGen, reaches_iff_reflTransGen]
  rcases ReflTransGen.total_of_right_unique hup hr hs with h | h
  · exact .inr (reflTransGen_swap.mp h)
  · exact .inl (reflTransGen_swap.mp h)

/-! ## No live root below another -/

/-- No live root of the list is a proper descendant of another one. -/
def Separate (table : ProcessTable) (roots : List Pid) : Prop :=
  ∀ r ∈ roots, ∀ s ∈ roots, table.contains r → table.contains s → table.Reaches r s → s = r

instance (table : ProcessTable) (roots : List Pid) : Decidable (table.Separate roots) :=
  decidable_of_iff (roots.all fun r => roots.all fun s =>
    table.contains r → table.contains s → table.Reaches r s → s = r) (by
      simp only [Separate, List.all_eq_true, decide_eq_true_eq])

theorem Separate.of_subset {table : ProcessTable} {roots roots' : List Pid}
    (separate : table.Separate roots) (part : ∀ r ∈ roots', r ∈ roots) :
    table.Separate roots' :=
  fun r hr s hs => separate r (part r hr) s (part s hs)

theorem Separate.singleton (table : ProcessTable) (root : Pid) : table.Separate [root] := by
  intro r hr s hs _ _ _
  rw [List.mem_singleton.mp hr, List.mem_singleton.mp hs]

variable {table : ProcessTable} {roots : List Pid}
  (distinct : (table.links.map (·.pid)).Nodup) (separate : table.Separate roots)

include distinct separate

theorem Separate.claims_unique {p r s : Pid} (hr : r ∈ roots) (hs : s ∈ roots)
    (claims : table.Claims p r) (claims' : table.Claims p s) : r = s := by
  rcases reaches_total distinct claims.2 claims'.2 with h | h
  · exact (separate r hr s hs claims.1 claims'.1 h).symm
  · exact separate s hs r hr claims'.1 claims.1 h

theorem Separate.owner?_eq_some_iff {p root : Pid} :
    table.owner? roots p = some root ↔ root ∈ roots ∧ table.Claims p root := by
  constructor
  · exact owner?_mem
  · rintro ⟨hroot, hclaims⟩
    have hsome := isSome_owner?_iff.mpr ⟨root, hroot, hclaims⟩
    obtain ⟨owner, howner⟩ := Option.isSome_iff_exists.mp hsome
    obtain ⟨hmem, hclaims'⟩ := owner?_mem howner
    rw [howner, separate.claims_unique distinct hmem hroot hclaims' hclaims]

theorem Separate.getElem?_owners {p root : Pid} :
    (table.owners roots)[p]? = some root ↔ ∃ r ∈ roots, (table.owners [r])[p]? = some root := by
  rw [table.getElem?_owners, separate.owner?_eq_some_iff distinct]
  simp only [getElem?_owners_singleton]
  constructor
  · rintro ⟨hroot, hclaims⟩
    exact ⟨root, hroot, rfl, hclaims⟩
  · rintro ⟨r, hr, rfl, hclaims⟩
    exact ⟨hr, hclaims⟩

end WorkerMemory.ProcessTable
