import WorkerMemory.Usage

/-! # Totals are exact up to the largest value

Adding in steps that each stop at the largest value gives the true sum, stopped once.
-/

namespace WorkerMemory

theorem saturating_add (n k : Nat) :
    saturating ((saturating n).toNat + k) = saturating (n + k) := by
  apply UInt64.toNat_inj.mp
  rw [toNat_saturating, toNat_saturating, toNat_saturating]
  omega

/-! ## What a root owns -/

/-- The samples of the processes that belong to a root. -/
def ownedBy (owner : Pid → Option Pid) (root : Pid) (samples : List (Pid × KiB)) :
    List (Pid × KiB) :=
  samples.filter fun sample => owner sample.1 = some root

/-- The true sum, which no word has to hold. -/
def sumKb (samples : List (Pid × KiB)) : Nat :=
  samples.foldr (fun sample total => sample.2.toNat + total) 0

theorem ownedBy_cons (owner : Pid → Option Pid) (root : Pid) (sample : Pid × KiB)
    (samples : List (Pid × KiB)) :
    ownedBy owner root (sample :: samples) =
      if owner sample.1 = some root then sample :: ownedBy owner root samples
      else ownedBy owner root samples := by
  unfold ownedBy
  rw [List.filter_cons]
  split <;> simp_all

theorem ownedBy_congr {owner owner' : Pid → Option Pid} {root : Pid} {samples : List (Pid × KiB)}
    (same : ∀ sample ∈ samples, owner sample.1 = some root ↔ owner' sample.1 = some root) :
    ownedBy owner root samples = ownedBy owner' root samples := by
  unfold ownedBy
  apply List.filter_congr
  intro sample hsample
  simp only [same sample hsample]

theorem ownedBy_toList_congr {owner : Pid → Option Pid} {root : Pid} {memory memory' : Samples}
    (same : ∀ p, owner p = some root → memory[p]? = memory'[p]?) :
    ownedBy owner root memory.toList = ownedBy owner root memory'.toList := by
  have hequiv : (memory.filter fun p _ => owner p = some root).Equiv
      (memory'.filter fun p _ => owner p = some root) := by
    apply Std.TreeMap.Equiv.of_forall_constGet?_eq
    intro p
    rw [Std.TreeMap.getElem?_filter', Std.TreeMap.getElem?_filter']
    by_cases h : owner p = some root
    · rw [same p h]
    · simp [h]
  have hlists := hequiv.toList_eq
  rwa [Std.TreeMap.toList_filter, Std.TreeMap.toList_filter] at hlists

theorem ownedBy_ne_nil_iff {owner : Pid → Option Pid} {root : Pid} {samples : List (Pid × KiB)} :
    ownedBy owner root samples ≠ [] ↔ ∃ sample ∈ samples, owner sample.1 = some root := by
  unfold ownedBy
  rw [Ne, List.filter_eq_nil_iff]
  simp

/-! ## Totals -/

theorem getElem?_addSample (owners : Ownership) (totals : Samples) (sample : Pid × KiB)
    (root : Pid) :
    (addSample owners totals sample)[root]? =
      if owners[sample.1]? = some root
      then some (saturatingAdd (totals.getD root 0) sample.2) else totals[root]? := by
  unfold addSample
  cases owners[sample.1]? with
  | none => simp
  | some owner =>
    rw [Std.TreeMap.getElem?_insert]
    by_cases h : owner = root
    · simp [h]
    · simp [h]

theorem getElem?_foldl_addSample (owners : Ownership) (samples : List (Pid × KiB))
    (totals : Samples) (root : Pid) :
    (samples.foldl (addSample owners) totals)[root]? =
      if ownedBy (owners[·]?) root samples = [] then totals[root]?
      else some (saturating
        ((totals.getD root 0).toNat + sumKb (ownedBy (owners[·]?) root samples))) := by
  induction samples generalizing totals with
  | nil => rfl
  | cons sample samples ih =>
    rw [List.foldl_cons, ih, ownedBy_cons, Std.TreeMap.getD_eq_getD_getElem?, getElem?_addSample]
    by_cases h : owners[sample.1]? = some root
    · -- The sample is added now, the rest of what the root owns on top of it.
      simp only [h, if_true, Option.getD_some, saturatingAdd, saturating_add]
      by_cases hrest : ownedBy (owners[·]?) root samples = []
      · simp [hrest, sumKb]
      · simp [hrest, sumKb, Nat.add_assoc]
    · simp only [h, if_false, Std.TreeMap.getD_eq_getD_getElem?]

theorem getElem?_totals (owners : Ownership) (samples : List (Pid × KiB)) (root : Pid) :
    (totals owners samples)[root]? =
      if ownedBy (owners[·]?) root samples = [] then none
      else some (saturating (sumKb (ownedBy (owners[·]?) root samples))) := by
  unfold totals
  rw [getElem?_foldl_addSample, Std.TreeMap.getD_eq_getD_getElem?, Std.TreeMap.getElem?_emptyc]
  simp

/-- What a survey adds up if it comes across the samples in a given order. -/
def usageInOrder (owners : Ownership) (order : List (Pid × KiB)) (now : Instant) :
    Std.TreeMap Pid Stat :=
  (totals owners order).map fun _ kb => { kb, observedAt := now }

theorem getElem?_usageInOrder (owners : Ownership) (order : List (Pid × KiB)) (now : Instant)
    (root : Pid) :
    (usageInOrder owners order now)[root]? =
      if ownedBy (owners[·]?) root order = [] then none
      else some {
        kb := saturating (sumKb (ownedBy (owners[·]?) root order))
        observedAt := now } := by
  unfold usageInOrder
  rw [Std.TreeMap.getElem?_map, getElem?_totals]
  split <;> rfl

theorem getElem?_usage (owners : Ownership) (samples : Samples) (now : Instant) (root : Pid) :
    (usage owners samples now)[root]? =
      if ownedBy (owners[·]?) root samples.toList = [] then none
      else some {
        kb := saturating (sumKb (ownedBy (owners[·]?) root samples.toList))
        observedAt := now } :=
  getElem?_usageInOrder owners samples.toList now root

/-! ## The order of the samples -/

theorem sumKb_perm {samples samples' : List (Pid × KiB)} (h : samples.Perm samples') :
    sumKb samples = sumKb samples' := by
  unfold sumKb
  exact h.foldr_eq' (fun _ _ _ _ _ => by omega) 0

theorem usageInOrder_equiv (owners : Ownership) (now : Instant) {order order' : List (Pid × KiB)}
    (h : order.Perm order') :
    (usageInOrder owners order now).Equiv (usageInOrder owners order' now) := by
  have hsame (root : Pid) :
      (usageInOrder owners order now)[root]? = (usageInOrder owners order' now)[root]? := by
    have howned : (ownedBy (owners[·]?) root order).Perm (ownedBy (owners[·]?) root order') :=
      h.filter _
    have hnil : ownedBy (owners[·]?) root order = [] ↔ ownedBy (owners[·]?) root order' = [] := by
      rw [← List.length_eq_zero_iff, ← List.length_eq_zero_iff, howned.length_eq]
    simp only [getElem?_usageInOrder, sumKb_perm howned, hnil]
  exact Std.TreeMap.Equiv.of_forall_constGet?_eq hsame

/-! ## Exact figures -/

theorem toNat_bytes_saturating (n : Nat) (now : Instant) :
    (Stat.bytes { kb := saturating n, observedAt := now }).toNat =
      min (1024 * n) (UInt64.size - 1) := by
  rw [Stat.bytes, toNat_saturating, toNat_saturating]
  omega

theorem mem_usage_iff {owners : Ownership} {memory : Samples} {now : Instant} {root : Pid} :
    root ∈ usage owners memory now ↔
      ∃ (pid : Pid) (kb : KiB), memory[pid]? = some kb ∧ owners[pid]? = some root := by
  have howned : root ∈ usage owners memory now ↔ ownedBy (owners[·]?) root memory.toList ≠ [] := by
    rw [Std.TreeMap.mem_iff_isSome_getElem?, getElem?_usage]
    split <;> simp_all
  rw [howned, ownedBy_ne_nil_iff]
  simp only [Prod.exists, Std.TreeMap.mem_toList_iff_getElem?_eq_some]

/-- A root has a figure if a process that it owns was sampled, even with no memory at all. The
figure is the true sum as far as a word holds it, and so are its bytes. Whatever order the samples
come in, the figures are the same. -/
theorem usage_exact (owners : Ownership) (memory : Samples) (now : Instant)
    {order : List (Pid × KiB)} (listed : order.Perm memory.toList) :
    (usageInOrder owners order now).Equiv (usage owners memory now) ∧
    ∀ root, (root ∈ usage owners memory now ↔
        ∃ (pid : Pid) (kb : KiB), memory[pid]? = some kb ∧ owners[pid]? = some root) ∧
      ∀ stat, (usage owners memory now)[root]? = some stat →
        let total := sumKb (memory.toList.filter fun sample => owners[sample.1]? = some root)
        stat.kb.toNat = min total (UInt64.size - 1) ∧
        stat.bytes.toNat = min (1024 * total) (UInt64.size - 1) ∧ stat.observedAt = now := by
  refine ⟨usageInOrder_equiv owners now listed, fun root => ⟨mem_usage_iff, fun stat hstat => ?_⟩⟩
  rw [getElem?_usage, Option.ite_none_left_eq_some] at hstat
  obtain ⟨-, hstat⟩ := hstat
  obtain rfl := Option.some.inj hstat
  exact ⟨toNat_saturating _, toNat_bytes_saturating _ now, rfl⟩

/-- Two samples that together are too large for a word, in an order of their own; a sample of no
memory; a root that owns no sampled process. -/
theorem usage_exact_past_the_brim :
    let owners : Ownership := .ofList [(10, 10), (11, 10), (12, 12), (13, 14)] _
    let memory : Samples := .ofList [(10, 0xFFFFFFFFFFFFFFFF), (11, 1), (12, 0), (50, 7)] _
    let order : List (Pid × KiB) := [(12, 0), (11, 1), (50, 7), (10, 0xFFFFFFFFFFFFFFFF)]
    order.Perm memory.toList ∧
    (usageInOrder owners order .epoch).Equiv (usage owners memory .epoch) ∧
    12 ∈ usage owners memory .epoch ∧ 14 ∉ usage owners memory .epoch ∧
    ∃ stat, (usage owners memory .epoch)[(10 : Pid)]? = some stat ∧
      stat.kb.toNat = 0xFFFFFFFFFFFFFFFF ∧ stat.bytes.toNat = 0xFFFFFFFFFFFFFFFF := by
  intro owners memory order
  have listed : order.Perm memory.toList := by decide +kernel
  obtain ⟨hequiv, hroots⟩ := usage_exact owners memory .epoch listed
  have hstat : (usage owners memory .epoch)[(10 : Pid)]?.isSome := by
    rw [← Std.TreeMap.mem_iff_isSome_getElem?]
    exact (hroots 10).1.mpr ⟨11, 1, by decide +kernel, by decide +kernel⟩
  obtain ⟨stat, hstat⟩ := Option.isSome_iff_exists.mp hstat
  obtain ⟨hkb, hbytes, -⟩ := (hroots 10).2 stat hstat
  have hzero : 12 ∈ usage owners memory .epoch :=
    (hroots 12).1.mpr ⟨12, 0, by decide +kernel, by decide +kernel⟩
  exact ⟨listed, hequiv, hzero, by decide +kernel, stat, hstat, hkb, hbytes⟩

end WorkerMemory
