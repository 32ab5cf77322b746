import Mathlib.Data.List.Count
import WorkerMemory.Table

/-! # The order of a table's rows

There is only one way to put metrics into ascending order and leave those of one worker id as they
came. So where the ids are distinct, it does not matter how the metrics came.
-/

namespace WorkerMemory.Table

/-! ## By ascending id -/

def ofId (id : WorkerId) (metrics : List Metric) : List Metric :=
  metrics.filter (·.worker.id = id)

theorem id_of_mem_ofId {id : WorkerId} {m : Metric} {metrics : List Metric}
    (h : m ∈ ofId id metrics) : m.worker.id = id :=
  of_decide_eq_true (List.mem_filter.mp h).2

/-- Rows by ascending worker id; those of one id keep their order. -/
structure Ranked (rows metrics : List Metric) : Prop where
  ascending : rows.Pairwise fun m m' => m.worker.id ≤ m'.worker.id
  kept : ∀ id, ofId id rows = ofId id metrics

theorem perm_of_ofId_eq {rows metrics : List Metric} (h : ∀ id, ofId id rows = ofId id metrics) :
    rows.Perm metrics := by
  rw [List.perm_iff_count]
  intro m
  have hcount (l : List Metric) : (ofId m.worker.id l).count m = l.count m :=
    List.count_filter (by simp)
  rw [← hcount rows, ← hcount metrics, h]

theorem Ranked.perm {rows metrics : List Metric} (h : Ranked rows metrics) : rows.Perm metrics :=
  perm_of_ofId_eq h.kept

theorem ofId_cons_self (m : Metric) (metrics : List Metric) :
    ofId m.worker.id (m :: metrics) = m :: ofId m.worker.id metrics := by
  simp [ofId]

theorem ofId_of_cons {id : WorkerId} {m : Metric} {rows rows' : List Metric}
    (h : ofId id (m :: rows) = ofId id (m :: rows')) : ofId id rows = ofId id rows' := by
  simp only [ofId, List.filter_cons] at h ⊢
  split at h
  · exact (List.cons.inj h).2
  · exact h

theorem eq_of_ascending {rows rows' : List Metric}
    (ascending : rows.Pairwise fun m m' => m.worker.id ≤ m'.worker.id)
    (ascending' : rows'.Pairwise fun m m' => m.worker.id ≤ m'.worker.id)
    (same : ∀ id, ofId id rows = ofId id rows') : rows = rows' := by
  have hperm := perm_of_ofId_eq same
  induction rows generalizing rows' with
  | nil => exact hperm.nil_eq
  | cons m rows ih =>
    cases rows' with
    | nil => exact absurd hperm.eq_nil (List.cons_ne_nil _ _)
    | cons m' rows' =>
      -- Both lists begin with their smallest id, and of this id with the same metric.
      have hfirst {m : Metric} {rows : List Metric}
          (ascending : (m :: rows).Pairwise fun m m' => m.worker.id ≤ m'.worker.id) :
          ∀ m' ∈ m :: rows, m.worker.id ≤ m'.worker.id :=
        List.forall_mem_cons.mpr ⟨UInt32.le_refl _, (List.pairwise_cons.mp ascending).1⟩
      have hid : m.worker.id = m'.worker.id :=
        UInt32.le_antisymm
          (hfirst ascending _ (hperm.mem_iff.mpr List.mem_cons_self))
          (hfirst ascending' _ (hperm.mem_iff.mp List.mem_cons_self))
      have hheads := same m.worker.id
      rw [ofId_cons_self, hid, ofId_cons_self] at hheads
      obtain ⟨rfl, -⟩ := List.cons.inj hheads
      have hrest : ∀ id, ofId id rows = ofId id rows' := fun id => ofId_of_cons (same id)
      rw [ih ascending.of_cons ascending'.of_cons hrest (perm_of_ofId_eq hrest)]

theorem Ranked.unique {rows rows' metrics : List Metric} (h : Ranked rows metrics)
    (h' : Ranked rows' metrics) : rows = rows' :=
  eq_of_ascending h.ascending h'.ascending fun id => (h.kept id).trans (h'.kept id).symm

/-! ## What sorting does -/

/-- An order by ids on which any two metrics agree. -/
theorem ranked_sorted (metrics : List Metric) : Ranked (sorted metrics) metrics := by
  let le (m m' : Metric) : Bool := m.worker.id ≤ m'.worker.id
  have trans : ∀ a b c : Metric, le a b → le b c → le a c := by
    simpa [le] using fun _ _ _ => UInt32.le_trans
  have total : ∀ a b : Metric, le a b || le b a := by
    simpa [le] using fun _ _ => UInt32.le_total _ _
  refine ⟨(List.pairwise_mergeSort trans total metrics).imp of_decide_eq_true, fun id => ?_⟩
  have hperm : (ofId id (sorted metrics)).Perm (ofId id metrics) :=
    (List.mergeSort_perm metrics le).filter _
  -- Metrics of one id are in ascending order as they came, and a sort leaves such alone.
  have hties : (ofId id metrics).Pairwise fun m m' => le m m' := by
    apply List.pairwise_of_forall_mem_list
    intro m hm m' hm'
    simp [le, id_of_mem_ofId hm, id_of_mem_ofId hm']
  have hsub : (ofId id metrics).Sublist (sorted metrics) :=
    List.sublist_mergeSort trans total hties List.filter_sublist
  have hkept : (ofId id metrics).Sublist (ofId id (sorted metrics)) := by
    simpa [ofId] using hsub.filter (·.worker.id = id)
  exact (hkept.eq_of_length hperm.length_eq.symm).symm

theorem perm_sorted (metrics : List Metric) : (sorted metrics).Perm metrics :=
  (ranked_sorted metrics).perm

theorem sorted_congr {metrics metrics' : List Metric}
    (same : ∀ id, ofId id metrics = ofId id metrics') : sorted metrics = sorted metrics' :=
  eq_of_ascending (ranked_sorted metrics).ascending (ranked_sorted metrics').ascending fun id => by
    rw [(ranked_sorted metrics).kept, (ranked_sorted metrics').kept, same]

/-! ## Distinct ids -/

theorem ofId_perm {metrics metrics' : List Metric} (nodup : (metrics.map (·.worker.id)).Nodup)
    (h : metrics.Perm metrics') (id : WorkerId) : ofId id metrics = ofId id metrics' := by
  have hne {l : List Metric} (nodup : (l.map (·.worker.id)).Nodup) :
      (ofId id l).Pairwise fun m m' => m.worker.id ≠ m'.worker.id :=
    (List.pairwise_map.mp nodup).filter _
  have hnodup' : (metrics'.map (·.worker.id)).Nodup := (h.map _).nodup_iff.mp nodup
  refine List.Perm.eq_of_pairwise ?_ (hne nodup) (hne hnodup') (h.filter _)
  intro m m' hm hm' hdiffer
  exact absurd ((id_of_mem_ofId hm).trans (id_of_mem_ofId hm').symm) hdiffer

theorem sorted_perm {metrics metrics' : List Metric} (nodup : (metrics.map (·.worker.id)).Nodup)
    (h : metrics.Perm metrics') : sorted metrics = sorted metrics' :=
  sorted_congr (ofId_perm nodup h)

theorem pairwise_sorted {metrics : List Metric} (nodup : (metrics.map (·.worker.id)).Nodup) :
    (sorted metrics).Pairwise fun m m' => m.worker.id < m'.worker.id := by
  have hne : (sorted metrics).Pairwise fun m m' => m.worker.id ≠ m'.worker.id :=
    List.pairwise_map.mp (((perm_sorted metrics).map _).nodup_iff.mpr nodup)
  exact ((ranked_sorted metrics).ascending.and hne).imp fun ⟨hle, hne⟩ =>
    UInt32.lt_of_le_of_ne hle hne

end WorkerMemory.Table
