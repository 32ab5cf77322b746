import WorkerMemory.Proofs.Decimal.Bits

/-! # Products and quotients of floats

A float that takes the exact result is the result.
-/

namespace WorkerMemory.Decimal

open Float.Model Float.Model.UnpackedFloat

/-! ## On significands -/

theorem stands_div (m : Nat) {d : Nat} (pos : 0 < d) :
    Stands (.ofMantissaAndAccuracy (m / d) (accuracyOfFraction (m % d) d)) (m / d : Rat) := by
  have hd : (0 : Rat) < d := by exact_mod_cast pos
  have hmod : ((m % d : Nat) : Rat) < d := by exact_mod_cast Nat.mod_lt m pos
  have hvalue : (m / d : Rat) = (m / d : Nat) + (m % d : Nat) / d := by
    have hsum : (m : Rat) = d * (m / d : Nat) + (m % d : Nat) := by
      exact_mod_cast (Nat.div_add_mod m d).symm
    rw [div_eq_iff hd.ne', add_mul, div_mul_cancel₀ _ hd.ne', hsum]
    ring
  rw [hvalue]
  unfold accuracyOfFraction
  split
  · next hzero =>
    rw [hzero, Nat.cast_zero, zero_div, add_zero]
    rfl
  · next hne =>
    have hpos : (0 : Rat) < (m % d : Nat) := by exact_mod_cast Nat.pos_of_ne_zero hne
    have hfraction : (0 : Rat) < (m % d : Nat) / d := div_pos hpos hd
    rcases Nat.lt_trichotomy (2 * (m % d)) d with h | h | h
    · have hhalf : ((m % d : Nat) / d : Rat) < 1 / 2 := by
        rw [div_lt_div_iff₀ hd two_pos, mul_comm, one_mul]
        exact_mod_cast h
      rw [Nat.compare_eq_lt.mpr h]
      exact ⟨by linarith, by linarith⟩
    · have hhalf : ((m % d : Nat) / d : Rat) = 1 / 2 := by
        rw [div_eq_div_iff hd.ne' two_ne_zero, mul_comm, one_mul]
        exact_mod_cast h
      rw [Nat.compare_eq_eq.mpr h, hhalf]
      rfl
    · have hhalf : 1 / 2 < ((m % d : Nat) / d : Rat) := by
        rw [div_lt_div_iff₀ two_pos hd, mul_comm _ (2 : Rat), one_mul]
        exact_mod_cast h
      have hone : ((m % d : Nat) / d : Rat) < 1 := (div_lt_one hd).mpr hmod
      rw [Nat.compare_eq_gt.mpr h]
      exact ⟨by linarith, by linarith⟩

namespace Binary

variable {b : Binary}

theorem mul_eq (normal : b.IsNormal) {m₁ m₂ : Nat} {e₁ e₂ : Int} (pos₁ : 0 < m₁) (pos₂ : 0 < m₂)
    (takes : b.Takes (m₁ * 2 ^ e₁ * (m₂ * 2 ^ e₂))) (large : 2 ^ 52 ≤ m₁ * m₂) :
    UnpackedFloat.mul Format.binary64 (.finite .positive m₁ e₁ pos₁)
      (.finite .positive m₂ e₂ pos₂) =
      .finite .positive b.significand b.exponent normal.pos := by
  have hexact : Stands (.ofMantissaAndAccuracy (m₁ * m₂) .exact) ((m₁ * m₂ : Nat) : Rat) := rfl
  have hvalue : (m₁ * 2 ^ e₁ * (m₂ * 2 ^ e₂) : Rat) = (m₁ * m₂ : Nat) * 2 ^ (e₁ + e₂) := by
    rw [zpow_add₀ two_ne_zero, Nat.cast_mul]
    ring
  have hlog : 52 ≤ (m₁ * m₂).log2 := (Nat.le_log2 (Nat.mul_pos pos₁ pos₂).ne').mpr large
  rw [hvalue] at takes
  apply takes.roundWithAccuracy_eq normal hexact
  rw [targetExponent_eq, totalExponent]
  omega

theorem div_eq (normal : b.IsNormal) {m₁ m₂ : Nat} {e₁ e₂ : Int} (pos₁ : 0 < m₁) (pos₂ : 0 < m₂)
    (takes : b.Takes (m₁ * 2 ^ e₁ / (m₂ * 2 ^ e₂))) :
    UnpackedFloat.div Format.binary64 (.finite .positive m₁ e₁ pos₁)
      (.finite .positive m₂ e₂ pos₂) =
      .finite .positive b.significand b.exponent normal.pos := by
  -- The dividend is shifted until the quotient has all bits of a float.
  let total := totalExponent m₁ e₁ - totalExponent m₂ e₂
  let target := min (e₁ - e₂) (Format.binary64.targetExponent total)
  let shift := (e₁ - e₂ - target).toNat
  have stands := stands_div (m₁ <<< shift) pos₂
  have hvalue : (m₁ * 2 ^ e₁ / (m₂ * 2 ^ e₂) : Rat) = (m₁ <<< shift : Nat) / m₂ * 2 ^ target := by
    have hshift : e₁ - e₂ = shift + target := by omega
    rw [Nat.shiftLeft_eq, Nat.cast_mul, Nat.cast_pow, Nat.cast_ofNat, mul_div_mul_comm,
      ← zpow_sub₀ two_ne_zero, hshift, zpow_add₀ two_ne_zero, zpow_natCast]
    ring
  have hlower : 2 ^ (total - 1) < (m₁ * 2 ^ e₁ / (m₂ * 2 ^ e₂) : Rat) := by
    have hexact (m : Nat) : Stands (.ofMantissaAndAccuracy m .exact) m := rfl
    have hpos : (0 : Rat) < m₂ * 2 ^ e₂ := by positivity
    have hsecond := lt_two_zpow_totalExponent (e := e₂) (hexact m₂)
    rw [lt_div_iff₀ hpos]
    calc
      (2 ^ (total - 1) * (m₂ * 2 ^ e₂) : Rat) < 2 ^ (total - 1) * 2 ^ totalExponent m₂ e₂ :=
        mul_lt_mul_of_pos_left hsecond (zpow_pos two_pos _)
      _ = 2 ^ (totalExponent m₁ e₁ - 1) := by
        rw [← zpow_add₀ two_ne_zero]
        congr 1
        omega
      _ ≤ m₁ * 2 ^ e₁ := two_zpow_le_of_ne_zero (hexact m₁) pos₁.ne'
  have hupper := lt_two_zpow_totalExponent (e := target) stands
  rw [hvalue] at takes hlower
  have htotal := hlower.trans hupper
  rw [zpow_lt_zpow_iff_right₀ one_lt_two] at htotal
  apply takes.roundWithAccuracy_eq normal stands
  have htarget : target ≤ Format.binary64.targetExponent total := min_le_right _ _
  rw [targetExponent_eq] at htarget ⊢
  omega

end Binary

/-! ## On floats -/

/-- A float that is a number exactly, and has its first bit. -/
def Holds (x : Float) (q : Rat) : Prop :=
  ∃ (m : Nat) (e : Int) (pos : 0 < m), x.toModel.unpack = .finite .positive m e pos ∧
    2 ^ 52 ≤ m ∧ q = m * 2 ^ e

namespace Holds

variable {b : Binary} {x y : Float} {p q : Rat}

theorem mul (normal : b.IsNormal) (hx : Holds x p) (hy : Holds y q) (takes : b.Takes (p * q)) :
    x * y = b.toFloat normal.pos := by
  obtain ⟨m₁, e₁, pos₁, hx, first, rfl⟩ := hx
  obtain ⟨m₂, e₂, pos₂, hy, -, rfl⟩ := hy
  have hmul := Binary.mul_eq normal pos₁ pos₂ takes (first.trans (Nat.le_mul_of_pos_right _ pos₂))
  change Float.ofModel
    (Float.Model.pack (UnpackedFloat.mul _ x.toModel.unpack y.toModel.unpack)) = _
  rw [hx, hy, hmul]
  rfl

theorem div (normal : b.IsNormal) (hx : Holds x p) (hy : Holds y q) (takes : b.Takes (p / q)) :
    x / y = b.toFloat normal.pos := by
  obtain ⟨m₁, e₁, pos₁, hx, -, rfl⟩ := hx
  obtain ⟨m₂, e₂, pos₂, hy, -, rfl⟩ := hy
  change Float.ofModel
    (Float.Model.pack (UnpackedFloat.div _ x.toModel.unpack y.toModel.unpack)) = _
  rw [hx, hy, Binary.div_eq normal pos₁ pos₂ takes]
  rfl

end Holds

/-! ## Exact floats -/

theorem unpacked_ofNat {n : Nat} (pos : 0 < n) (lt : n < 2 ^ 53) : ∃ shift, shift ≤ 52 ∧
    2 ^ 52 ≤ n <<< shift ∧ n <<< shift < 2 ^ 53 ∧ ∃ hpos,
      UnpackedFloat.ofNat Format.binary64 n = .finite .positive (n <<< shift) (-shift) hpos := by
  have hlog : n.log2 < 53 := (Nat.log2_lt pos.ne').mpr lt
  obtain ⟨shift, hshift⟩ : ∃ shift, n.log2 + shift = 52 := ⟨52 - n.log2, by omega⟩
  have hlow : 2 ^ 52 ≤ n <<< shift := by
    rw [Nat.shiftLeft_eq, ← hshift, Nat.pow_add]
    exact Nat.mul_le_mul_right _ (Nat.log2_self_le pos.ne')
  have hhigh : n <<< shift < 2 ^ 53 := by
    have hpow : 2 ^ (n.log2 + 1) * 2 ^ shift = 2 ^ 53 := by
      rw [← Nat.pow_add, Nat.add_right_comm, hshift]
    rw [Nat.shiftLeft_eq, ← hpow]
    exact Nat.mul_lt_mul_of_pos_right Nat.lt_log2_self (Nat.two_pow_pos shift)
  have htarget : Format.binary64.targetExponent (totalExponent n 0) = -shift := by
    rw [targetExponent_eq, totalExponent]
    omega
  have hshifted : Format.binary64.targetExponent (totalExponent (n <<< shift) (-shift)) =
      -shift := by
    rw [targetExponent_eq, totalExponent, (Nat.log2_eq_iff (by omega)).mpr ⟨hlow, hhigh⟩]
    omega
  have hexact : Stands (.ofMantissaAndAccuracy (n <<< shift) .exact) (n <<< shift : Nat) := rfl
  have hrounds : RoundsTo ((n <<< shift : Nat) * 2 ^ (-shift - -shift : Int)) (n <<< shift) := by
    rw [sub_self, zpow_zero, mul_one]
    exact .of_lt (by linarith) (by linarith)
  refine ⟨shift, by omega, hlow, hhigh, by omega, ?_⟩
  simp only [UnpackedFloat.ofNat, UnpackedFloat.ofInt, UnpackedFloat.normalize,
    Int.compare_eq_gt.mpr (Int.natCast_pos.mpr pos), Int.toNat_natCast, UnpackedFloat.round,
    htarget, decreaseExponent, zero_sub, neg_neg]
  exact roundWithAccuracy_of_lt hexact hshifted le_rfl hrounds (by omega) hhigh _

theorem holds_toFloat {n : Nat} (pos : 0 < n) (lt : n < 2 ^ 53) : Holds n.toUInt64.toFloat n := by
  obtain ⟨shift, hshift, hlow, hhigh, hpos, hround⟩ := unpacked_ofNat pos lt
  refine ⟨n <<< shift, -shift, hpos, ?_, hlow, ?_⟩
  · have hnat : n.toUInt64.toNat = n := Nat.mod_eq_of_lt (lt.trans (by decide))
    change (Float.Model.pack (UnpackedFloat.ofNat Format.binary64 n.toUInt64.toNat)).unpack = _
    rw [hnat, hround]
    exact unpack_pack_of_le hlow hhigh (by omega) (by omega) _ _
  · rw [Nat.shiftLeft_eq, Nat.cast_mul, Nat.cast_pow, Nat.cast_ofNat, zpow_neg, zpow_natCast,
      mul_inv_cancel_right₀ (by positivity)]

theorem zpow_eq_div {a : Rat} (ha : a ≠ 0) (e : Int) : a ^ e = a ^ e.toNat / a ^ (-e).toNat := by
  conv_lhs => rw [← Int.toNat_sub_toNat_neg e]
  rw [zpow_sub₀ ha, zpow_natCast, zpow_natCast]

theorem powers_exact : ∀ k : Fin 23,
    let x := Float.exactlyRepresentablePowersOfTen[k]
    let b := Binary.ofBits (magnitude x)
    0 < magnitude x ∧ magnitude x < 0x7FF <<< 52 ∧ isNegative x = false ∧
      2 ^ 52 ≤ b.significand ∧
        10 ^ (k : Nat) * 2 ^ (-b.exponent).toNat = b.significand * 2 ^ b.exponent.toNat := by
  decide +kernel

theorem holds_power {k : Nat} (hk : k < Float.exactlyRepresentablePowersOfTen.size) :
    Holds Float.exactlyRepresentablePowersOfTen[k] (10 ^ k) := by
  obtain ⟨pos, lt, hsign, hlow, hvalue⟩ := powers_exact ⟨k, hk⟩
  have hunpack := unpack_of_finite pos lt
  rw [signOf, hsign] at hunpack
  refine ⟨_, _, _, hunpack, hlow, ?_⟩
  generalize Binary.ofBits (magnitude _) = b at hvalue ⊢
  have hcast : (10 ^ k * 2 ^ (-b.exponent).toNat : Rat) = b.significand * 2 ^ b.exponent.toNat := by
    exact_mod_cast hvalue
  rw [zpow_eq_div two_ne_zero, ← mul_div_assoc, ← hcast, mul_div_cancel_right₀ _ (by positivity)]

end WorkerMemory.Decimal
