import WorkerMemory.Proofs.Decimal.Arithmetic
import WorkerMemory.Proofs.Text.Numeral

/-! # The fewest digits belong to the float

The search tests just for the numbers that a float takes, and at the latest with seventeen digits
there is one.
-/

namespace WorkerMemory.Decimal.Binary

variable {b : Binary}

/-! ## Grids of decimal numbers -/

theorem quarter_eq (b : Binary) (place : Int) : ∃ f : Rat, 0 < f ∧
    ((b.quarter place).1 : Rat) = 2 ^ (b.exponent - 2) * f ∧
    ((b.quarter place).2 : Rat) = 10 ^ place * f := by
  have hten : (10 : Rat) ^ place = 10 ^ place.toNat / 10 ^ (-place).toNat :=
    zpow_eq_div (by norm_num) _
  have htwo : (2 : Rat) ^ (b.exponent - 2) =
      2 ^ (b.exponent - 2).toNat / 2 ^ (2 - b.exponent).toNat := by
    rw [zpow_eq_div two_ne_zero, neg_sub]
  refine ⟨10 ^ (-place).toNat * 2 ^ (2 - b.exponent).toNat, by positivity, ?_, ?_⟩
  · rw [htwo]
    simp only [quarter, Nat.pow_eq, Nat.shiftLeft_eq, Nat.cast_mul, Nat.cast_pow, Nat.cast_ofNat]
    field_simp
  · rw [hten]
    simp only [quarter, Nat.pow_eq, Nat.shiftLeft_eq, Nat.cast_mul, Nat.cast_pow, Nat.cast_ofNat]
    field_simp

theorem takes_iff {q : Rat} : b.Takes q ↔
    if b.significand % 2 = 0 then b.low ≤ q ∧ q ≤ b.high else b.low < q ∧ q < b.high := by
  constructor
  · rintro ⟨hlow, hhigh, hodd⟩
    split
    · exact ⟨hlow, hhigh⟩
    · exact hodd (by omega)
  · intro h
    split at h
    · exact ⟨h.1, h.2, by omega⟩
    · exact ⟨h.1.le, h.2.le, fun _ => h⟩

theorem covers_iff (normal : b.IsNormal) {place : Int} {n : Nat} :
    b.covers place n ↔ b.Takes (n * 10 ^ place) := by
  obtain ⟨f, hf, hnum, hden⟩ := b.quarter_eq place
  have hquarter : (2 : Rat) ^ (b.exponent - 2) = 2 ^ b.exponent / 4 := by
    rw [zpow_sub₀ two_ne_zero, zpow_ofNat]
    ring
  let steps := if b.isEdge then 1 else 2
  have hsteps : (steps : Rat) = 4 * b.gap := by
    unfold steps gap
    split <;> norm_num
  have hle : steps ≤ 4 * b.significand := by
    have hpos := normal.pos
    unfold steps
    split <;> omega
  have hlow : (((4 * b.significand - steps) * (b.quarter place).1 : Nat) : Rat) = b.low * f := by
    rw [Nat.cast_mul, Nat.cast_sub hle, hsteps, hnum, hquarter, low]
    push_cast
    ring
  have hhigh : (((4 * b.significand + 2) * (b.quarter place).1 : Nat) : Rat) = b.high * f := by
    rw [Nat.cast_mul, hnum, hquarter, high]
    push_cast
    ring
  have hn : ((n * (b.quarter place).2 : Nat) : Rat) = n * 10 ^ place * f := by
    rw [Nat.cast_mul, hden, mul_assoc]
  have hcovers : b.covers place n ↔ if b.significand % 2 = 0 then
      (4 * b.significand - steps) * (b.quarter place).1 ≤ n * (b.quarter place).2 ∧
        n * (b.quarter place).2 ≤ (4 * b.significand + 2) * (b.quarter place).1
      else (4 * b.significand - steps) * (b.quarter place).1 < n * (b.quarter place).2 ∧
        n * (b.quarter place).2 < (4 * b.significand + 2) * (b.quarter place).1 := by
    simp only [covers]
    split <;> simp [steps]
  have hcast (i k : Nat) : (i ≤ k ↔ (i : Rat) ≤ k) ∧ (i < k ↔ (i : Rat) < k) :=
    ⟨Nat.cast_le.symm, Nat.cast_lt.symm⟩
  rw [hcovers, takes_iff]
  simp only [hcast, hlow, hhigh, hn, mul_le_mul_iff_left₀ hf, mul_lt_mul_iff_left₀ hf]

theorem exists_near (b : Binary) (place : Int) :
    ∃ n ∈ b.neighbours place, |(n * 10 ^ place : Rat) - b.value| ≤ 10 ^ place / 2 := by
  obtain ⟨f, hf, hnum, hden⟩ := b.quarter_eq place
  let num := (b.quarter place).1
  let den := (b.quarter place).2
  let n := 4 * b.significand * num / den
  let remainder := 4 * b.significand * num % den
  let rest : Rat := remainder / f
  have hrest : (remainder : Rat) = rest * f := (div_mul_cancel₀ _ hf.ne').symm
  have hvalue : b.value = n * 10 ^ place + rest := by
    have hnumerator : ((4 * b.significand * num : Nat) : Rat) = b.value * f := by
      rw [Nat.cast_mul, hnum, value, zpow_sub₀ two_ne_zero]
      push_cast
      ring
    have hdivision : ((4 * b.significand * num : Nat) : Rat) = den * n + remainder := by
      exact_mod_cast (Nat.div_add_mod _ _).symm
    have hscaled : b.value * f = (n * 10 ^ place + rest) * f := by
      rw [← hnumerator, hdivision, hden, hrest]
      ring
    exact mul_right_cancel₀ hf.ne' hscaled
  have hpos : 0 < den := by
    have hpos : (0 : Rat) < den := by
      rw [hden]
      positivity
    exact_mod_cast hpos
  have hlt : rest < 10 ^ place := by
    have hmod : (remainder : Rat) < den := by exact_mod_cast Nat.mod_lt _ hpos
    rw [hrest, hden] at hmod
    exact (mul_lt_mul_iff_left₀ hf).mp hmod
  have hnonneg : 0 ≤ rest := by positivity
  have hneighbours : b.neighbours place =
      if 2 * remainder < den then [n, n + 1] else [n + 1, n] := rfl
  rw [hneighbours]
  split
  · next hlower =>
    have hhalf : 2 * rest < 10 ^ place := by
      have hcast : (2 * remainder : Rat) < den := by exact_mod_cast hlower
      rwa [hrest, hden, ← mul_assoc, mul_lt_mul_iff_left₀ hf] at hcast
    refine ⟨n, List.mem_cons_self, ?_⟩
    rw [hvalue, sub_add_cancel_left, abs_neg, abs_of_nonneg hnonneg]
    linarith
  · next hupper =>
    have hhalf : 10 ^ place ≤ 2 * rest := by
      have hcast : (den : Rat) ≤ 2 * remainder := by exact_mod_cast not_lt.mp hupper
      rwa [hrest, hden, ← mul_assoc, mul_le_mul_iff_left₀ hf] at hcast
    refine ⟨n + 1, List.mem_cons_self, ?_⟩
    rw [hvalue, abs_le]
    push_cast
    constructor <;> linarith

/-! ## The leading digit -/

theorem ten_zpow_length_le {n : Nat} (pos : 0 < n) {q : Rat} (h : n ≤ q) :
    (10 : Rat) ^ ((Numeral.ofNat n).length - 1 : Int) ≤ q := by
  have hlength : 0 < (Numeral.ofNat n).length := List.length_pos_iff.mpr (Numeral.ofNat_ne_nil n)
  have hle : (10 : Rat) ^ ((Numeral.ofNat n).length - 1) ≤ n := by
    exact_mod_cast Numeral.pow_length_ofNat_le pos
  have hcast : ((Numeral.ofNat n).length - 1 : Int) = ((Numeral.ofNat n).length - 1 : Nat) := by
    omega
  rw [hcast, zpow_natCast]
  exact hle.trans h

theorem two_pow_le_ten_pow {n k : Nat} (h : n ≤ 33 * k) : 2 ^ n ≤ 10 ^ (10 * k) :=
  calc
    2 ^ n ≤ 2 ^ (33 * k) := Nat.pow_le_pow_right two_pos h
    _ = (2 ^ 33) ^ k := Nat.pow_mul ..
    _ ≤ (10 ^ 10) ^ k := Nat.pow_le_pow_left (by decide) k
    _ = 10 ^ (10 * k) := (Nat.pow_mul ..).symm

theorem ten_zpow_leading_le (normal : b.IsNormal) : (10 : Rat) ^ b.leading ≤ b.value := by
  unfold leading value
  have pos := normal.pos
  cases hexponent : b.exponent with
  | ofNat e =>
    apply ten_zpow_length_le
    · exact Nat.shiftLeft_pos_iff.mpr pos
    · rw [Nat.shiftLeft_eq, Int.ofNat_eq_natCast, zpow_natCast]
      push_cast
      rfl
  | negSucc e =>
    have hden : (0 : Rat) < 2 ^ (e + 1) := by positivity
    rw [zpow_negSucc, ← div_eq_mul_inv]
    simp only [Nat.one_shiftLeft]
    split
    · next hle =>
      apply ten_zpow_length_le (Nat.div_pos hle (Nat.two_pow_pos _))
      exact_mod_cast Nat.cast_div_le
    · let places := (List.range 330).find? fun p => 2 ^ (e + 1) ≤ b.significand * Nat.pow 10 p
      have hplaces : ∃ p, places.getD 330 = p ∧ 2 ^ (e + 1) ≤ b.significand * 10 ^ p := by
        cases hfind : places with
        | some p =>
          have hfits := List.find?_some hfind
          exact ⟨p, rfl, of_decide_eq_true hfits⟩
        | none =>
          have hexponent : e + 1 ≤ 33 * 33 := by
            have hleast := normal.least
            omega
          exact ⟨10 * 33, rfl, (two_pow_le_ten_pow hexponent).trans (Nat.le_mul_of_pos_left _ pos)⟩
      obtain ⟨p, hp, henough⟩ := hplaces
      change (10 : Rat) ^ (-(places.getD 330 : Int)) ≤ _
      rw [hp, zpow_neg, zpow_natCast, inv_le_iff_one_le_mul₀ (by positivity), div_mul_eq_mul_div,
        one_le_div hden]
      exact_mod_cast henough

/-! ## The search -/

/-- Seventeen digits tell any two floats apart. -/
theorem exists_covers (normal : b.IsNormal) :
    ∃ n ∈ b.neighbours (b.leading - 16), b.covers (b.leading - 16) n := by
  obtain ⟨n, hn, hnear⟩ := b.exists_near (b.leading - 16)
  refine ⟨n, hn, (covers_iff normal).mpr (takes_of_near (hnear.trans_lt ?_))⟩
  have hsmall : (b.significand : Rat) < 2 * 10 ^ 16 * b.gap := by
    unfold gap
    split
    · next hedge =>
      rw [(normal.edge.mp hedge).1]
      norm_num
    · have hlt : (b.significand : Rat) < 2 ^ 53 := by exact_mod_cast normal.lt
      linarith
  have hleading := ten_zpow_leading_le normal
  rw [value] at hleading
  have hscaled := mul_lt_mul_of_pos_right hsmall (zpow_pos two_pos b.exponent)
  rw [zpow_sub₀ (by norm_num), zpow_ofNat]
  linarith

theorem shortest_takes (normal : b.IsNormal) :
    b.Takes (b.shortest.digits * 10 ^ b.shortest.exponent) := by
  let hits := ((List.range 17).map fun (k : Nat) => b.leading - k).flatMap fun place =>
    ((b.neighbours place).filter (b.covers place)).map fun n => Digits.mk n place
  have htakes : ∀ d ∈ hits, b.Takes (d.digits * 10 ^ d.exponent) := by
    intro d hd
    obtain ⟨place, -, hplace⟩ := List.mem_flatMap.mp hd
    obtain ⟨n, hn, rfl⟩ := List.mem_map.mp hplace
    exact (covers_iff normal).mp (List.mem_filter.mp hn).2
  have hsome : hits ≠ [] := by
    obtain ⟨n, hn, hcovers⟩ := exists_covers normal
    have hmem : Digits.mk n (b.leading - 16) ∈ hits := by
      apply List.mem_flatMap.mpr
      refine ⟨b.leading - 16, List.mem_map.mpr ⟨16, by decide, rfl⟩, ?_⟩
      exact List.mem_map.mpr ⟨n, List.mem_filter.mpr ⟨hn, hcovers⟩, rfl⟩
    exact List.ne_nil_of_mem hmem
  obtain ⟨d, rest, hhits⟩ := List.exists_cons_of_ne_nil hsome
  have hshortest : b.shortest = hits.headD { digits := b.significand, exponent := 0 } := rfl
  rw [hshortest, hhits]
  exact htakes d (hhits ▸ List.mem_cons_self)

end WorkerMemory.Decimal.Binary
