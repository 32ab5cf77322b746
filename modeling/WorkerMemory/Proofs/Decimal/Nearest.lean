import WorkerMemory.Decimal.Float
import WorkerMemory.Proofs.Decimal.Arithmetic
import WorkerMemory.Proofs.Text.Numeral

/-! # Digits are read as the nearest float

The float that takes the number the digits say, be it written with few digits or with many.
-/

namespace WorkerMemory.Decimal

open Float.Model Float.Model.UnpackedFloat

/-! ## Powers of ten between powers of two -/

theorem le_ten_zpow {e : Int} (h : 0 ≤ e) : (2 : Rat) ^ (3 * e) ≤ 10 ^ e := by
  rw [zpow_mul]
  exact zpow_le_zpow_left₀ h (by positivity) (by norm_num)

theorem ten_zpow_le {e : Int} (h : e ≤ 0) : (10 : Rat) ^ e ≤ 2 ^ (3 * e) := by
  have hneg := le_ten_zpow (neg_nonneg.mpr h)
  rw [mul_neg, zpow_neg, zpow_neg] at hneg
  exact (inv_le_inv₀ (by positivity) (by positivity)).mp hneg

namespace Binary

variable {b : Binary}

/-! ## Exactly, then rounded -/

theorem ofScientific_bounds (normal : b.IsNormal) {n : Nat} {e : Int}
    (takes : b.Takes (n * 10 ^ e)) : n ≠ 0 ∧ e ≤ 2 ^ 11 ∧ -(2 ^ 11 + (n.log2 : Int)) ≤ e := by
  have hn : n ≠ 0 := by
    rintro rfl
    have hpos := (zpow_pos two_pos _).trans_le (takes.ge_least normal)
    rw [Nat.cast_zero, zero_mul] at hpos
    exact lt_irrefl _ hpos
  refine ⟨hn, ?_, ?_⟩
  · by_contra hlarge
    have hone : (1 : Rat) ≤ n := by exact_mod_cast Nat.pos_of_ne_zero hn
    have hpow : (2 : Rat) ^ (3 * e) < 2 ^ (1024 : Int) :=
      calc
        (2 : Rat) ^ (3 * e) ≤ 10 ^ e := le_ten_zpow (by omega)
        _ ≤ n * 10 ^ e := le_mul_of_one_le_left (by positivity) hone
        _ < 2 ^ (1024 : Int) := takes.lt_most normal
    have hlt := (zpow_lt_zpow_iff_right₀ one_lt_two).mp hpow
    omega
  · by_contra hsmall
    have hlog : (n : Rat) ≤ 2 ^ ((n.log2 : Int) + 1) := by exact_mod_cast Nat.lt_log2_self.le
    have hten := ten_zpow_le (by omega : e ≤ 0)
    have hpow : (2 : Rat) ^ (-1075 : Int) ≤ 2 ^ ((n.log2 : Int) + 1 + 3 * e) :=
      calc
        (2 : Rat) ^ (-1075 : Int) ≤ n * 10 ^ e := takes.ge_least normal
        _ ≤ 2 ^ ((n.log2 : Int) + 1) * 2 ^ (3 * e) :=
          mul_le_mul hlog hten (by positivity) (by positivity)
        _ = 2 ^ ((n.log2 : Int) + 1 + 3 * e) := (zpow_add₀ two_ne_zero _ _).symm
    have hle := (zpow_le_zpow_iff_right₀ one_lt_two).mp hpow
    omega

theorem ofScientific_eq (normal : b.IsNormal) {n : Nat} {e : Int}
    (takes : b.Takes (n * 10 ^ e)) :
    UnpackedFloat.ofScientific Format.binary64 n e =
      .finite .positive b.significand b.exponent normal.pos := by
  obtain ⟨hn, hlarge, hsmall⟩ := ofScientific_bounds normal takes
  unfold UnpackedFloat.ofScientific
  rw [dif_neg hn, if_neg (not_lt.mpr hlarge), if_neg (not_lt.mpr hsmall)]
  split
  · next he =>
    -- The shift gives the product its 53 bits.
    have hvalue : (n * 10 ^ e : Rat) =
        (n <<< 53 : Nat) * 2 ^ (-53 : Int) * ((10 ^ e.toNat : Nat) * 2 ^ (0 : Int)) := by
      have htwo : (2 : Rat) ^ (-53 : Int) = (2 ^ 53)⁻¹ := zpow_neg_coe_of_pos 2 (by decide)
      conv_lhs => rw [← Int.toNat_of_nonneg he, zpow_natCast]
      rw [Nat.shiftLeft_eq, htwo, zpow_zero, mul_one, Nat.cast_mul, Nat.cast_pow, Nat.cast_pow,
        Nat.cast_ofNat, Nat.cast_ofNat, mul_inv_cancel_right₀ (by positivity)]
    have hlarge : 2 ^ 52 ≤ n <<< 53 * 10 ^ e.toNat := by
      have hpow : 0 < 10 ^ e.toNat := Nat.pow_pos (by decide)
      have hshift : 2 ^ 53 ≤ n <<< 53 := by
        rw [Nat.shiftLeft_eq]
        exact Nat.le_mul_of_pos_left _ (Nat.pos_of_ne_zero hn)
      exact (by decide : 2 ^ 52 ≤ 2 ^ 53).trans (hshift.trans (Nat.le_mul_of_pos_right _ hpow))
    rw [hvalue] at takes
    exact mul_eq normal _ _ takes hlarge
  · next he =>
    have hvalue : (n * 10 ^ e : Rat) =
        n * 2 ^ (0 : Int) / ((10 ^ (-e).toNat : Nat) * 2 ^ (0 : Int)) := by
      rw [zpow_eq_div (by norm_num), Int.toNat_eq_zero.mpr (by omega), zpow_zero, mul_one, mul_one,
        pow_zero, mul_one_div, Nat.cast_pow, Nat.cast_ofNat]
    rw [hvalue] at takes
    exact div_eq normal _ _ takes

theorem toFloat_of_slow (normal : b.IsNormal) {n : Nat} {e : Int} (takes : b.Takes (n * 10 ^ e)) :
    Float.ofModel (Float.Model.ofScientific n e) = b.toFloat normal.pos := by
  unfold Float.Model.ofScientific
  rw [ofScientific_eq normal takes]
  rfl

/-! ## Or from exact floats -/

theorem ofScientific_mul (normal : b.IsNormal) {n e : Nat} (takes : b.Takes (n * 10 ^ e)) :
    Float.ofScientific n false e = b.toFloat normal.pos := by
  rw [← zpow_natCast] at takes
  obtain ⟨hn, -⟩ := ofScientific_bounds normal takes
  unfold Float.ofScientific
  split
  · next h =>
    rw [zpow_natCast] at takes
    exact (holds_toFloat (Nat.pos_of_ne_zero hn) h.1).mul normal (holds_power _) takes
  · exact toFloat_of_slow normal takes

theorem ofScientific_div (normal : b.IsNormal) {n e : Nat} (takes : b.Takes (n / 10 ^ e)) :
    Float.ofScientific n true e = b.toFloat normal.pos := by
  have hvalue : (n / 10 ^ e : Rat) = n * 10 ^ (-e : Int) := by
    rw [zpow_neg, zpow_natCast, div_eq_mul_inv]
  unfold Float.ofScientific
  split
  · next h =>
    obtain ⟨hn, -⟩ := ofScientific_bounds normal (hvalue ▸ takes)
    exact (holds_toFloat (Nat.pos_of_ne_zero hn) h.1).div normal (holds_power _) takes
  · have hneg : Int.negOfNat e = -e := Int.negOfNat_eq
    rw [hvalue, ← hneg] at takes
    exact toFloat_of_slow normal takes

/-! ## Or not at all -/

theorem magnitude_bounds (normal : b.IsNormal) {n : Nat} {e : Int} (takes : b.Takes (n * 10 ^ e)) :
    -400 ≤ ((Numeral.ofNat n).length + e : Int) ∧ ((Numeral.ofNat n).length + e : Int) ≤ 400 := by
  have pos := Nat.pos_of_ne_zero (ofScientific_bounds normal takes).1
  have hten : (1 : Rat) ≤ 10 := by norm_num
  constructor
  · by_contra hsmall
    have hn : (n : Rat) ≤ 10 ^ ((Numeral.ofNat n).length : Int) := by
      exact_mod_cast (Numeral.lt_pow_length_ofNat n).le
    have hpow : (2 : Rat) ^ (-1075 : Int) ≤ 2 ^ (3 * (-400) : Int) :=
      calc
        (2 : Rat) ^ (-1075 : Int) ≤ n * 10 ^ e := takes.ge_least normal
        _ ≤ 10 ^ ((Numeral.ofNat n).length : Int) * 10 ^ e :=
          mul_le_mul_of_nonneg_right hn (by positivity)
        _ = 10 ^ ((Numeral.ofNat n).length + e : Int) := (zpow_add₀ (by norm_num) _ _).symm
        _ ≤ 10 ^ (-400 : Int) := zpow_le_zpow_right₀ hten (by omega)
        _ ≤ 2 ^ (3 * (-400) : Int) := ten_zpow_le (by decide)
    exact absurd ((zpow_le_zpow_iff_right₀ one_lt_two).mp hpow) (by decide)
  · by_contra hlarge
    have hn : (10 : Rat) ^ (((Numeral.ofNat n).length - 1 : Nat) : Int) ≤ n := by
      exact_mod_cast Numeral.pow_length_ofNat_le pos
    have hpow : (2 : Rat) ^ (3 * 400 : Int) < 2 ^ (1024 : Int) :=
      calc
        (2 : Rat) ^ (3 * 400 : Int) ≤ 10 ^ (400 : Int) := le_ten_zpow (by decide)
        _ ≤ 10 ^ (((Numeral.ofNat n).length - 1 : Nat) + e : Int) :=
          zpow_le_zpow_right₀ hten (by omega)
        _ = 10 ^ (((Numeral.ofNat n).length - 1 : Nat) : Int) * 10 ^ e :=
          zpow_add₀ (by norm_num) _ _
        _ ≤ n * 10 ^ e := mul_le_mul_of_nonneg_right hn (by positivity)
        _ < 2 ^ (1024 : Int) := takes.lt_most normal
    exact absurd ((zpow_lt_zpow_iff_right₀ one_lt_two).mp hpow) (by decide)

theorem nearestFloat_eq (normal : b.IsNormal) {n : Nat} {e : Int} (takes : b.Takes (n * 10 ^ e)) :
    nearestFloat n e = b.toFloat normal.pos := by
  obtain ⟨hn, -⟩ := ofScientific_bounds normal takes
  obtain ⟨hlow, hhigh⟩ := magnitude_bounds normal takes
  unfold nearestFloat
  simp only [hn, decide_false, Bool.false_or, not_lt.mpr hlow, not_lt.mpr hhigh, if_false]
  cases e with
  | ofNat e =>
    rw [Int.ofNat_eq_natCast, zpow_natCast] at takes
    exact ofScientific_mul normal takes
  | negSucc e =>
    rw [zpow_negSucc, ← div_eq_mul_inv] at takes
    exact ofScientific_div normal takes

end Binary

end WorkerMemory.Decimal
