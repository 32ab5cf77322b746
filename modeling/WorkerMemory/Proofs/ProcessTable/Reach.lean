import Mathlib.Logic.Relation
import WorkerMemory.ProcessTable

/-! # What the walk down from a root finds

Exactly the processes below the root, whatever graph the links make.
-/

namespace WorkerMemory.ProcessTable

open Relation

/-! ## Links as a relation -/

def IsChildIn (links : List Link) (parent child : Pid) : Prop :=
  { pid := child, parent := some parent : Link } ∈ links

theorem mem_childrenIn {links : List Link} {parent child : Pid} :
    child ∈ childrenIn links parent ↔ IsChildIn links parent child := by
  unfold childrenIn IsChildIn
  rw [List.mem_eraseDups, List.mem_map]
  constructor
  · rintro ⟨⟨pid, above⟩, hl, rfl⟩
    rw [List.mem_filter] at hl
    obtain ⟨hl, hp⟩ := hl
    obtain rfl : above = some parent := by simpa using hp
    exact hl
  · intro h
    exact ⟨_, List.mem_filter.mpr ⟨h, by simp⟩, rfl⟩

theorem isChildIn_without {links : List Link} {found : List Pid} {parent child : Pid} :
    IsChildIn (without links found) parent child ↔
      IsChildIn links parent child ∧ child ∉ found := by
  unfold IsChildIn without
  rw [List.mem_filter]
  simp

theorem transGen_without {links : List Link} {found : List Pid} {q p : Pid}
    (way : TransGen (IsChildIn links) q p) (hp : p ∉ found) :
    TransGen (IsChildIn (without links found)) q p ∨
      ∃ f ∈ found, TransGen (IsChildIn (without links found)) f p := by
  -- The way is cut at the last found process on it, so the induction is on its end.
  induction way with
  | single h => exact Or.inl (.single (isChildIn_without.mpr ⟨h, hp⟩))
  | @tail b p _ h ih =>
    have hlast := isChildIn_without.mpr ⟨h, hp⟩
    by_cases hb : b ∈ found
    · exact Or.inr ⟨b, hb, .single hlast⟩
    · rcases ih hb with way | ⟨f, hf, way⟩
      · exact Or.inl (way.tail hlast)
      · exact Or.inr ⟨f, hf, way.tail hlast⟩

theorem transGen_of_without {links : List Link} {found : List Pid} {q p : Pid}
    (way : TransGen (IsChildIn (without links found)) q p) : TransGen (IsChildIn links) q p :=
  TransGen.mono (fun _ _ h => (isChildIn_without.mp h).1) _ _ way

/-! ## The walk -/

/-- The walk finds what can be reached from its queue over the links it is given. -/
theorem mem_walk {links : List Link} {queue : List Pid} {p : Pid} :
    p ∈ walk links queue ↔ ∃ q ∈ queue, TransGen (IsChildIn links) q p := by
  fun_induction walk links queue with
  | case1 => simp
  | case2 links parent queue found ih =>
    rw [List.mem_append, ih]
    constructor
    · rintro (hp | ⟨q, hq, way⟩)
      · exact ⟨parent, List.mem_cons_self, .single (mem_childrenIn.mp hp)⟩
      · have way := transGen_of_without way
        rcases List.mem_append.mp hq with hq | hq
        · exact ⟨q, List.mem_cons_of_mem _ hq, way⟩
        · exact ⟨parent, List.mem_cons_self, .head (mem_childrenIn.mp hq) way⟩
    · rintro ⟨q, hq, way⟩
      by_cases hp : p ∈ found
      · exact Or.inl hp
      right
      rcases transGen_without way hp with way | ⟨f, hf, way⟩
      · rcases List.mem_cons.mp hq with rfl | hq
        · -- The first step from `parent` would lead to one of its children.
          obtain ⟨c, hc, -⟩ := TransGen.head'_iff.mp way
          obtain ⟨hc, hnot⟩ := isChildIn_without.mp hc
          exact absurd (mem_childrenIn.mpr hc) hnot
        · exact ⟨q, List.mem_append_left _ hq, way⟩
      · exact ⟨f, List.mem_append_right _ hf, way⟩

/-! ## Processes below a root -/

/-- `p` is reached from `root` over one or more links from parent to child. -/
def Below (table : ProcessTable) (root p : Pid) : Prop :=
  TransGen (IsChildIn table.links) root p

theorem mem_descendants {table : ProcessTable} {root p : Pid} :
    p ∈ table.descendants root ↔ p ≠ root ∧ table.Below root p := by
  unfold descendants Below
  rw [mem_walk]
  simp only [List.mem_singleton, exists_eq_left]
  constructor
  · intro way
    refine ⟨?_, transGen_of_without way⟩
    obtain ⟨_, -, h⟩ := TransGen.tail'_iff.mp way
    simpa using (isChildIn_without.mp h).2
  · rintro ⟨hne, way⟩
    have hnot : p ∉ [root] := by simpa using hne
    rcases transGen_without way hnot with way | ⟨f, hf, way⟩
    · exact way
    · rwa [List.mem_singleton.mp hf] at way

/-- `p` is `root` or lies below it. -/
def Reaches (table : ProcessTable) (root p : Pid) : Prop := p = root ∨ table.Below root p

theorem reaches_iff {table : ProcessTable} {root p : Pid} :
    table.Reaches root p ↔ p = root ∨ p ∈ table.descendants root := by
  rw [mem_descendants, Reaches]
  by_cases h : p = root <;> simp [h]

instance (table : ProcessTable) (root p : Pid) : Decidable (table.Reaches root p) :=
  decidable_of_iff _ reaches_iff.symm

end WorkerMemory.ProcessTable
