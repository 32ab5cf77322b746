import Mathlib.Order.Lattice.Nat
import WorkerMemory.Proofs.ProcessTable.Reach

/-! # The walk down goes level by level

Nearer processes come first and none comes twice. The queue of the walk holds processes of two
levels at most, and every level is counted from the first of them.
-/

namespace WorkerMemory.ProcessTable

open Relation

/-! ## Ways of a given length -/

inductive StepsIn (r : Pid → Pid → Prop) (start : Pid) : ℕ → Pid → Prop
  | zero : StepsIn r start 0 start
  | succ {n : ℕ} {p c : Pid} (way : StepsIn r start n p) (step : r p c) : StepsIn r start (n + 1) c

variable {r r' : Pid → Pid → Prop} {a c p q : Pid} {n : ℕ}

theorem StepsIn.mono (sub : ∀ p c, r p c → r' p c) (way : StepsIn r q n p) : StepsIn r' q n p := by
  induction way with
  | zero => exact .zero
  | succ _ step ih => exact .succ ih (sub _ _ step)

theorem StepsIn.head (step : r a c) (way : StepsIn r c n p) : StepsIn r a (n + 1) p := by
  induction way with
  | zero => exact .succ .zero step
  | succ _ last ih => exact .succ ih last

theorem transGen_iff_exists_stepsIn : TransGen r q p ↔ ∃ n, StepsIn r q (n + 1) p := by
  constructor
  · intro way
    induction way with
    | single step => exact ⟨0, .succ .zero step⟩
    | tail _ step ih =>
      obtain ⟨n, way⟩ := ih
      exact ⟨n + 1, .succ way step⟩
  · rintro ⟨n, way⟩
    induction n generalizing p with
    | zero =>
      cases way with
      | succ first step =>
        cases first
        exact .single step
    | succ n ih =>
      cases way with
      | succ first step => exact (ih first).tail step

/-! ## Levels -/

variable {links : List Link} {found near far queue : List Pid}

theorem stepsIn_without (way : StepsIn (IsChildIn links) q (n + 1) p) (hp : p ∉ found) :
    StepsIn (IsChildIn (without links found)) q (n + 1) p ∨
      ∃ f ∈ found, ∃ k < n, StepsIn (IsChildIn (without links found)) f (k + 1) p := by
  -- The way gets shorter where it is cut, at the last found process on it.
  induction n generalizing p with
  | zero =>
    cases way with
    | succ first step =>
      cases first
      exact .inl (.succ .zero (isChildIn_without.mpr ⟨step, hp⟩))
  | succ n ih =>
    cases way with
    | @succ _ b _ first step =>
      have hlast := isChildIn_without.mpr ⟨step, hp⟩
      by_cases hb : b ∈ found
      · exact .inr ⟨b, hb, 0, Nat.succ_pos n, .succ .zero hlast⟩
      · rcases ih first hb with way | ⟨f, hf, k, hk, way⟩
        · exact .inl (.succ way hlast)
        · exact .inr ⟨f, hf, k + 1, Nat.succ_lt_succ hk, .succ way hlast⟩

/-- `p` lies at most `n` levels below the processes of `near`, those of `far` being one level below
them already. -/
def Within (links : List Link) (near far : List Pid) (n : ℕ) (p : Pid) : Prop :=
  (∃ q ∈ near, ∃ k < n, StepsIn (IsChildIn links) q (k + 1) p) ∨
    ∃ q ∈ far, ∃ k, k + 1 < n ∧ StepsIn (IsChildIn links) q (k + 1) p

theorem within_nil_left : Within links [] far (n + 1) p ↔ Within links far [] n p := by
  simp [Within]

theorem pos_of_within (h : Within links near far n p) : 0 < n := by
  rcases h with ⟨_, _, _, hk, _⟩ | ⟨_, _, _, hk, _⟩ <;> omega

theorem within_of_child (h : IsChildIn links q p) (hn : 0 < n) :
    Within links (q :: near) far n p :=
  .inl ⟨q, List.mem_cons_self, 0, hn, .succ .zero h⟩

/-- Taking the first process from the queue leaves every level as it is. -/
theorem within_step (hp : p ∉ childrenIn links q) :
    Within links (q :: near) far n p ↔
      Within (without links (childrenIn links q)) near (far ++ childrenIn links q) n p := by
  constructor
  · rintro (⟨s, hs, k, hk, way⟩ | ⟨s, hs, k, hk, way⟩)
    · rcases stepsIn_without way hp with way | ⟨f, hf, j, hj, way⟩
      · rcases List.mem_cons.mp hs with rfl | hs
        · -- The first step would lead to one of its children.
          have hway := transGen_iff_exists_stepsIn.mpr ⟨k, way⟩
          obtain ⟨child, hchild, -⟩ := TransGen.head'_iff.mp hway
          obtain ⟨hchild, hnot⟩ := isChildIn_without.mp hchild
          exact absurd (mem_childrenIn.mpr hchild) hnot
        · exact .inl ⟨s, hs, k, hk, way⟩
      · exact .inr ⟨f, List.mem_append_right _ hf, j, by omega, way⟩
    · rcases stepsIn_without way hp with way | ⟨f, hf, j, hj, way⟩
      · exact .inr ⟨s, List.mem_append_left _ hs, k, hk, way⟩
      · exact .inr ⟨f, List.mem_append_right _ hf, j, by omega, way⟩
  · have hsub (a c : Pid) (h : IsChildIn (without links (childrenIn links q)) a c) :
        IsChildIn links a c := (isChildIn_without.mp h).1
    rintro (⟨s, hs, k, hk, way⟩ | ⟨s, hs, k, hk, way⟩)
    · exact .inl ⟨s, List.mem_cons_of_mem _ hs, k, hk, way.mono hsub⟩
    · rcases List.mem_append.mp hs with hs | hs
      · exact .inr ⟨s, hs, k, hk, way.mono hsub⟩
      · exact .inl ⟨q, List.mem_cons_self, k + 1, hk, (way.mono hsub).head (mem_childrenIn.mp hs)⟩

/-! ## The walk -/

theorem notMem_of_mem_walk (hp : p ∈ walk (without links found) queue) : p ∉ found := by
  obtain ⟨_, -, way⟩ := mem_walk.mp hp
  obtain ⟨_, -, h⟩ := TransGen.tail'_iff.mp way
  exact (isChildIn_without.mp h).2

theorem nodup_eraseDups (l : List Pid) : l.eraseDups.Nodup := by
  match l with
  | [] => simp
  | p :: l =>
    rw [List.eraseDups_cons, List.nodup_cons]
    exact ⟨by simp, nodup_eraseDups _⟩
termination_by l.length
decreasing_by
  exact Nat.lt_succ_of_le (List.length_filter_le _ _)

theorem nodup_walk (links : List Link) (queue : List Pid) : (walk links queue).Nodup := by
  fun_induction walk links queue with
  | case1 => exact List.nodup_nil
  | case2 links parent queue found ih =>
    refine List.nodup_append'.mpr ⟨nodup_eraseDups _, ih, ?_⟩
    intro p hp hrest
    exact notMem_of_mem_walk hrest hp

theorem pairwise_walk (links : List Link) (near far : List Pid) :
    (walk links (near ++ far)).Pairwise fun p p' =>
      ∀ n, Within links near far n p' → Within links near far n p := by
  generalize hqueue : near ++ far = queue
  fun_induction walk links queue generalizing near far with
  | case1 => exact .nil
  | case2 links parent queue found ih =>
    -- With nothing near, the far ones are the next level.
    have hfirst (near far : List Pid) (hqueue : near ++ far = queue) :
        (found ++ walk (without links found) (queue ++ found)).Pairwise fun p p' =>
          ∀ n, Within links (parent :: near) far n p' → Within links (parent :: near) far n p := by
      have hfound (p : Pid) (hp : p ∈ found) (n : ℕ) (hn : 0 < n) :
          Within links (parent :: near) far n p := within_of_child (mem_childrenIn.mp hp) hn
      rw [List.pairwise_append]
      refine ⟨?_, ?_, ?_⟩
      · exact List.pairwise_of_forall_mem_list fun p hp _ _ n h => hfound p hp n (pos_of_within h)
      · refine (ih near (far ++ found) (by rw [← List.append_assoc, hqueue])).imp_of_mem ?_
        intro p p' hp hp' h n
        rw [within_step (notMem_of_mem_walk hp), within_step (notMem_of_mem_walk hp')]
        exact h n
      · intro p hp _ _ n h
        exact hfound p hp n (pos_of_within h)
    cases near with
    | nil =>
      obtain rfl : far = parent :: queue := hqueue
      refine (hfirst queue [] (List.append_nil _)).imp ?_
      intro p p' h n hp'
      obtain ⟨n, rfl⟩ := Nat.exists_eq_add_one.mpr (pos_of_within hp')
      rw [within_nil_left] at hp' ⊢
      exact h n hp'
    | cons q near =>
      rw [List.cons_append, List.cons.injEq] at hqueue
      obtain ⟨rfl, hqueue⟩ := hqueue
      exact hfirst near far hqueue

/-! ## Distances -/

/-- A link from a process to another one. -/
def IsParent (table : ProcessTable) (parent child : Pid) : Prop :=
  IsChildIn table.links parent child ∧ child ≠ parent

/-- The fewest links that lead down from `root` to a process below it. -/
noncomputable def distance (table : ProcessTable) (root p : Pid) : ℕ :=
  sInf {n | StepsIn table.IsParent root n p}

variable {table : ProcessTable} {root : Pid}

theorem exists_le_stepsIn_isParent (way : StepsIn (IsChildIn table.links) root n p) :
    ∃ k ≤ n, StepsIn table.IsParent root k p := by
  induction way with
  | zero => exact ⟨0, Nat.le_refl 0, .zero⟩
  | @succ n b c _ step ih =>
    obtain ⟨k, hk, way⟩ := ih
    by_cases h : c = b
    · exact ⟨k, by omega, h ▸ way⟩
    · exact ⟨k + 1, by omega, .succ way ⟨step, h⟩⟩

theorem below_iff_isParent (hp : p ≠ root) :
    table.Below root p ↔ TransGen table.IsParent root p := by
  constructor
  · intro way
    obtain ⟨n, way⟩ := transGen_iff_exists_stepsIn.mp way
    obtain ⟨k, -, way⟩ := exists_le_stepsIn_isParent way
    cases k with
    | zero =>
      cases way
      contradiction
    | succ k => exact transGen_iff_exists_stepsIn.mpr ⟨k, way⟩
  · exact TransGen.mono (fun _ _ h => h.1) _ _

theorem reaches_iff_isParent {table : ProcessTable} {root p : Pid} :
    table.Reaches root p ↔ p = root ∨ TransGen table.IsParent root p := by
  by_cases hp : p = root
  · simp [hp, Reaches]
  · rw [Reaches, below_iff_isParent hp]

theorem within_iff_distance_le (hp : p ∈ table.descendants root) :
    Within (without table.links [root]) [root] [] n p ↔ table.distance root p ≤ n := by
  obtain ⟨hne, hbelow⟩ := mem_descendants.mp hp
  constructor
  · rintro (⟨q, hq, k, hk, way⟩ | ⟨q, hq, _⟩)
    · rw [List.mem_singleton.mp hq] at way
      obtain ⟨j, hj, way⟩ :=
        exists_le_stepsIn_isParent (way.mono fun _ _ h => (isChildIn_without.mp h).1)
      exact (Nat.sInf_le way).trans (by omega)
    · contradiction
  · intro hle
    obtain ⟨m, hm⟩ := transGen_iff_exists_stepsIn.mp ((below_iff_isParent hne).mp hbelow)
    have hmin : StepsIn table.IsParent root (table.distance root p) p :=
      Nat.sInf_mem (s := {n | StepsIn table.IsParent root n p}) ⟨m + 1, hm⟩
    cases hd : table.distance root p with
    | zero =>
      rw [hd] at hmin
      cases hmin
      contradiction
    | succ d =>
      rw [hd] at hmin hle
      have hnot : p ∉ [root] := by simpa using hne
      rcases stepsIn_without (hmin.mono fun _ _ h => h.1) hnot with way | ⟨f, hf, k, hk, way⟩
      · exact .inl ⟨root, List.mem_singleton_self _, d, hle, way⟩
      · rw [List.mem_singleton.mp hf] at way
        exact .inl ⟨root, List.mem_singleton_self _, k, by omega, way⟩

/-- The walk lists every process that can be reached from the root over one or more links, each once
and the nearest first. -/
theorem descendants_by_distance (table : ProcessTable) (root : Pid) :
    (table.descendants root).Nodup ∧
    (∀ p, p ∈ table.descendants root ↔ p ≠ root ∧ TransGen table.IsParent root p) ∧
    (table.descendants root).Pairwise fun p q => table.distance root p ≤ table.distance root q := by
  refine ⟨nodup_walk _ _, ?_, ?_⟩
  · intro p
    rw [mem_descendants]
    exact and_congr_right below_iff_isParent
  · have hwalk : (table.descendants root).Pairwise fun p q =>
        ∀ n, Within (without table.links [root]) [root] [] n q →
          Within (without table.links [root]) [root] [] n p := pairwise_walk _ [root] []
    refine hwalk.imp_of_mem ?_
    intro p q hp hq h
    exact (within_iff_distance_le hp).mp (h _ ((within_iff_distance_le hq).mpr (Nat.le_refl _)))

end WorkerMemory.ProcessTable
