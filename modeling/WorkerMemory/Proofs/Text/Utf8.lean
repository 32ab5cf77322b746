import WorkerMemory.Proofs.Text.Split
import WorkerMemory.Text.Utf8

/-! # Damaged UTF-8 line by line

A line feed is one byte and no other character has that byte in it, not even a broken one. So it
makes no difference whether a text is decoded first or cut into lines first.
-/

namespace WorkerMemory.Utf8

/-- The byte of a line feed. -/
def lineFeed : UInt8 := 0x0A

theorem eq_of_ofNat_eq_lineFeed {n : Nat} (h : Char.ofNat n = '\n') : n = 10 := by
  by_cases valid : n.isValidChar
  · rw [Char.ofNat, dif_pos valid] at h
    exact congrArg Char.toNat h
  · rw [Char.ofNat, dif_neg valid] at h
    exact absurd h (by decide)

/-! ## Bytes after the first -/

theorem continuation_suffix (k bits : Nat) (low high : UInt8) (bytes : List UInt8) :
    (continuation k bits low high bytes).2 <:+ bytes := by
  fun_induction continuation k bits low high bytes with
  | case1 => exact List.suffix_refl _
  | case2 => exact List.suffix_refl _
  | case3 _ _ _ _ b bytes _ ih => exact ih.trans (List.suffix_cons b bytes)
  | case4 => exact List.suffix_refl _

theorem continuation_append {ascii low : UInt8} (hascii : ascii < 0x80) (hlow : 0x80 ≤ low)
    (k bits : Nat) (high : UInt8) (bytes rest : List UInt8) :
    continuation k bits low high (bytes ++ ascii :: rest) =
      ((continuation k bits low high bytes).1,
        (continuation k bits low high bytes).2 ++ ascii :: rest) := by
  induction k generalizing bits low high bytes with
  | zero => rfl
  | succ k ih =>
    cases bytes with
    | nil =>
      have hlt : ascii < low := UInt8.lt_of_lt_of_le hascii hlow
      have hout : ¬ (low ≤ ascii ∧ ascii ≤ high) := fun h => UInt8.not_le.mpr hlt h.1
      simp [continuation, hout]
    | cons b bytes =>
      simp only [List.cons_append, continuation]
      split
      · exact ih UInt8.le_rfl ..
      · rfl

theorem le_of_continuation {k bits n : Nat} {low high : UInt8} {bytes : List UInt8}
    (h : (continuation k bits low high bytes).1 = some n) : bits ≤ n := by
  induction k generalizing bits low high bytes with
  | zero => exact Nat.le_of_eq (Option.some.inj h)
  | succ k ih =>
    cases bytes with
    | nil => contradiction
    | cons b bytes =>
      rw [continuation] at h
      split at h
      · exact Nat.le_trans (by omega) (ih h)
      · contradiction

theorem le_of_continuation_succ {k bits n : Nat} {low high : UInt8} {bytes : List UInt8}
    (h : (continuation (k + 1) bits low high bytes).1 = some n) :
    bits * 64 + (low.toNat - 0x80) ≤ n := by
  cases bytes with
  | nil => contradiction
  | cons b bytes =>
    rw [continuation] at h
    split at h
    · next hin =>
      have hlow := UInt8.le_iff_toNat_le.mp hin.1
      exact Nat.le_trans (by omega) (le_of_continuation h)
    · contradiction

/-! ## Leading bytes -/

theorem bounds_of_lead? {b : UInt8} {l : Lead} (h : lead? b = some l) :
    0 < l.following ∧ 0x80 ≤ l.low ∧ 10 < l.bits * 64 + (l.low.toNat - 0x80) := by
  simp only [lead?, UInt8.lt_iff_toNat_lt, beq_iff_eq, ← UInt8.toNat_inj, UInt8.reduceToNat] at h
  repeat' split at h
  all_goals cases h
  all_goals
    refine ⟨Nat.succ_pos _, ?_, ?_⟩
    · dsimp only
      decide
    · dsimp only [UInt8.reduceToNat]
      omega

theorem ne_lineFeed_of_lead? {b : UInt8} {l : Lead} {bytes : List UInt8} (h : lead? b = some l) :
    (continuation l.following l.bits l.low l.high bytes).1.elim replacement Char.ofNat ≠ '\n' := by
  obtain ⟨hfollowing, -, hbound⟩ := bounds_of_lead? h
  obtain ⟨k, hk⟩ := Nat.exists_eq_add_one.mpr hfollowing
  rw [hk]
  cases hcode : (continuation (k + 1) l.bits l.low l.high bytes).1 with
  | none => decide
  | some n =>
    intro heq
    have hn := eq_of_ofNat_eq_lineFeed heq
    have hle := le_of_continuation_succ hcode
    omega

/-! ## Whole texts -/

theorem decodeLossy_append {ascii : UInt8} (hascii : ascii < 0x80) (before after : List UInt8) :
    decodeLossy (before ++ ascii :: after) =
      decodeLossy before ++ Char.ofNat ascii.toNat :: decodeLossy after := by
  fun_induction decodeLossy before with
  | case1 => rw [List.nil_append, decodeLossy, if_pos hascii]; rfl
  | case2 b bytes single ih =>
    rw [List.cons_append, decodeLossy, if_pos single, ih, List.cons_append]
  | case3 b bytes beyond unknown ih =>
    rw [List.cons_append, decodeLossy, if_neg beyond, unknown]
    simp only [ih, List.cons_append]
  | case4 b bytes beyond l known decoded ih =>
    obtain ⟨-, hlow, -⟩ := bounds_of_lead? known
    -- A character breaks off at an ASCII byte as it does at the end.
    rw [List.cons_append, decodeLossy, if_neg beyond, known]
    simp only [continuation_append hascii hlow, List.cons_append]
    rw [ih]

theorem lineFeed_notMem_decodeLossy {bytes : List UInt8} (h : lineFeed ∉ bytes) :
    '\n' ∉ decodeLossy bytes := by
  fun_induction decodeLossy bytes with
  | case1 => exact List.not_mem_nil
  | case2 b bytes ascii ih =>
    rw [List.mem_cons, not_or] at h ⊢
    refine ⟨fun heq => h.1 ?_, ih h.2⟩
    exact (UInt8.toNat_inj.mp (eq_of_ofNat_eq_lineFeed heq.symm)).symm
  | case3 b bytes beyond unknown ih =>
    rw [List.mem_cons, not_or] at h ⊢
    exact ⟨by decide, ih h.2⟩
  | case4 b bytes beyond l known decoded ih =>
    rw [List.mem_cons, not_or] at h ⊢
    refine ⟨(ne_lineFeed_of_lead? known).symm, ih fun hmem => h.2 ?_⟩
    exact (continuation_suffix ..).mem hmem

/-- The lines of a decoded text are the lines of its bytes, each decoded on its own. -/
theorem splitOn_decodeLossy (bytes : List UInt8) :
    Text.splitOn '\n' (decodeLossy bytes) = (bytes.splitOn lineFeed).map decodeLossy := by
  rw [Text.splitOn_eq]
  by_cases h : lineFeed ∈ bytes
  · obtain ⟨before, after, rfl⟩ := List.append_of_mem h
    have hbefore := splitOn_decodeLossy before
    have hafter := splitOn_decodeLossy after
    rw [Text.splitOn_eq] at hbefore hafter
    have hcut : decodeLossy (before ++ lineFeed :: after) =
        decodeLossy before ++ '\n' :: decodeLossy after := decodeLossy_append (by decide) ..
    rw [hcut, List.splitOn_append_cons_self, hbefore, hafter, List.splitOn_append_cons_self,
      List.map_append]
  · rw [List.splitOn_eq_singleton h, List.splitOn_eq_singleton (lineFeed_notMem_decodeLossy h),
      List.map_singleton]
termination_by bytes.length
decreasing_by
  · subst_vars
    simp only [List.length_append, List.length_cons]
    omega
  · subst_vars
    simp only [List.length_append, List.length_cons]
    omega

end WorkerMemory.Utf8
