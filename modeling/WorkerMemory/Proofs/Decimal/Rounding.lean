import Mathlib.Algebra.Order.Field.Power
import Mathlib.Data.Rat.Cast.Order
import Mathlib.Tactic.Linarith
import Mathlib.Tactic.NormNum
import Mathlib.Tactic.Positivity
import Mathlib.Tactic.Ring
import WorkerMemory.Decimal.Shortest

/-! # The numbers of a float

The numbers between the midpoints to its neighbours are nearer to a float than to any other. The
midpoints belong to it if its significand is even. Arithmetic rounds just these numbers to it.
-/

namespace WorkerMemory.Decimal

open Float.Model Float.Model.UnpackedFloat

/-! ## Half to even -/

/-- The two bits behind a mantissa say where the rest of the number lies. -/
def Stands : ExtendedMantissa → Rat → Prop
  | ⟨m, false, false⟩, r => r = m
  | ⟨m, false, true⟩, r => m < r ∧ r < m + 1 / 2
  | ⟨m, true, false⟩, r => r = m + 1 / 2
  | ⟨m, true, true⟩, r => m + 1 / 2 < r ∧ r < m + 1

theorem Stands.floor {em : ExtendedMantissa} {r : Rat} (h : Stands em r) :
    em.mantissa ≤ r ∧ r < em.mantissa + 1 := by
  obtain ⟨m, round, sticky⟩ := em
  cases round <;> cases sticky <;> simp only [Stands] at h ⊢ <;> constructor <;> linarith

theorem Stands.shiftRightOne {em : ExtendedMantissa} {r : Rat} (h : Stands em r) :
    Stands em.shiftRightOne (r / 2) := by
  obtain ⟨m, round, sticky⟩ := em
  unfold ExtendedMantissa.shiftRightOne
  obtain ⟨k, rfl | rfl⟩ := Nat.even_or_odd' m
  · have hhalf : 2 * k / 2 = k := by omega
    have hbit : (2 * k % 2 != 0) = false := by simp
    rw [hhalf, hbit]
    cases round <;> cases sticky <;> simp only [Stands, Bool.or_false, Bool.or_true] at h ⊢ <;>
      push_cast at h <;> grind
  · have hhalf : (2 * k + 1) / 2 = k := by omega
    have hbit : ((2 * k + 1) % 2 != 0) = true := by simp
    rw [hhalf, hbit]
    cases round <;> cases sticky <;> simp only [Stands, Bool.or_false, Bool.or_true] at h ⊢ <;>
      push_cast at h <;> grind

theorem Stands.shiftRight {em : ExtendedMantissa} {r : Rat} (h : Stands em r) (k : Nat) :
    Stands (em >>> k) (r / 2 ^ k) := by
  induction k with
  | zero => simpa [HShiftRight.hShiftRight, Nat.repeat] using h
  | succ k ih =>
    have hstep : r / 2 ^ (k + 1) = r / 2 ^ k / 2 := by rw [pow_succ, div_div]
    rw [hstep]
    exact ih.shiftRightOne

/-- Halfway between two whole numbers, only the even one is rounded to. -/
structure RoundsTo (r : Rat) (n : Nat) : Prop where
  low : n - 1 / 2 ≤ r
  high : r ≤ n + 1 / 2
  odd : n % 2 = 1 → n - 1 / 2 < r ∧ r < n + 1 / 2

theorem RoundsTo.of_lt {r : Rat} {n : Nat} (low : n - 1 / 2 < r) (high : r < n + 1 / 2) :
    RoundsTo r n :=
  ⟨low.le, high.le, fun _ => ⟨low, high⟩⟩

theorem RoundsTo.le {r : Rat} {n n' : Nat} (h : RoundsTo r n) (h' : RoundsTo r n') : n' ≤ n := by
  by_contra hlt
  have hnext : n' = n + 1 := by
    have hle : (n' : Rat) ≤ n + 1 := by linarith [h.high, h'.low]
    have hle : n' ≤ n + 1 := by exact_mod_cast hle
    omega
  subst hnext
  have hlow := h'.low
  push_cast at hlow
  rcases Nat.mod_two_eq_zero_or_one n with even | odd
  · have hstrict := (h'.odd (by omega)).1
    push_cast at hstrict
    linarith [h.high]
  · linarith [(h.odd odd).2]

theorem RoundsTo.unique {r : Rat} {n n' : Nat} (h : RoundsTo r n) (h' : RoundsTo r n') : n = n' :=
  Nat.le_antisymm (h'.le h) (h.le h')

theorem Stands.roundsTo {em : ExtendedMantissa} {r : Rat} (h : Stands em r) :
    RoundsTo r em.roundedMantissa := by
  obtain ⟨m, round, sticky⟩ := em
  cases round <;> cases sticky <;>
    simp only [Stands, ExtendedMantissa.roundedMantissa, ExtendedMantissa.accuracy,
      Accuracy.roundToNearestEven] at h ⊢
  case false.false => exact .of_lt (by linarith) (by linarith)
  case false.true => exact .of_lt (by linarith) (by linarith)
  case true.true => exact .of_lt (by push_cast; linarith) (by push_cast; linarith)
  case true.false =>
    have heven : (m + m % 2) % 2 = 0 := by omega
    have hle : (m : Rat) ≤ ((m + m % 2 : Nat) : Rat) := by exact_mod_cast Nat.le_add_right m _
    have hge : ((m + m % 2 : Nat) : Rat) ≤ m + 1 := by exact_mod_cast (by omega : m + m % 2 ≤ m + 1)
    exact ⟨by linarith, by linarith, fun hodd => by omega⟩

/-! ## The numbers of a float -/

namespace Binary

def value (b : Binary) : Rat := b.significand * 2 ^ b.exponent

/-- How far the midpoint to the float below is, in units of the last bit. -/
def gap (b : Binary) : Rat := if b.isEdge then 1 / 4 else 1 / 2

/-- The midpoint to the float below. -/
def low (b : Binary) : Rat := (b.significand - b.gap) * 2 ^ b.exponent

/-- The midpoint to the float above. -/
def high (b : Binary) : Rat := (b.significand + 1 / 2) * 2 ^ b.exponent

structure Takes (b : Binary) (q : Rat) : Prop where
  low : b.low ≤ q
  high : q ≤ b.high
  odd : b.significand % 2 = 1 → b.low < q ∧ q < b.high

/-- A float has 53 bits. The first one is zero only with the smallest exponent. -/
structure IsNormal (b : Binary) : Prop where
  pos : 0 < b.significand
  lt : b.significand < 2 ^ 53
  first : 2 ^ 52 ≤ b.significand ∨ b.exponent = -1074
  least : -1074 ≤ b.exponent
  most : b.exponent ≤ 971
  edge : b.isEdge ↔ b.significand = 2 ^ 52 ∧ b.exponent ≠ -1074

theorem gap_le (b : Binary) : b.gap ≤ 1 / 2 := by
  unfold gap
  split <;> norm_num

theorem eq_mul (b : Binary) (q : Rat) : ∃ x, q = x * 2 ^ b.exponent :=
  ⟨q / 2 ^ b.exponent, (div_mul_cancel₀ q (zpow_ne_zero _ two_ne_zero)).symm⟩

theorem takes_mul_iff {b : Binary} {x : Rat} : b.Takes (x * 2 ^ b.exponent) ↔
    b.significand - b.gap ≤ x ∧ x ≤ b.significand + 1 / 2 ∧
      (b.significand % 2 = 1 → b.significand - b.gap < x ∧ x < b.significand + 1 / 2) := by
  have hpos : (0 : Rat) < 2 ^ b.exponent := zpow_pos two_pos _
  constructor
  · rintro ⟨hlow, hhigh, hodd⟩
    simp only [Binary.low, Binary.high, mul_le_mul_iff_left₀ hpos, mul_lt_mul_iff_left₀ hpos]
      at hlow hhigh hodd
    exact ⟨hlow, hhigh, hodd⟩
  · rintro ⟨hlow, hhigh, hodd⟩
    constructor <;>
      simpa only [Binary.low, Binary.high, mul_le_mul_iff_left₀ hpos, mul_lt_mul_iff_left₀ hpos]

theorem takes_of_near {b : Binary} {q : Rat} (h : |q - b.value| < b.gap * 2 ^ b.exponent) :
    b.Takes q := by
  obtain ⟨x, rfl⟩ := b.eq_mul q
  have hpos : (0 : Rat) < 2 ^ b.exponent := zpow_pos two_pos _
  rw [value, ← sub_mul, abs_mul, abs_of_pos hpos, mul_lt_mul_iff_left₀ hpos, abs_lt] at h
  have hgap := b.gap_le
  exact takes_mul_iff.mpr ⟨by linarith, by linarith, fun _ => ⟨by linarith, by linarith⟩⟩

/-! ## How large they are -/

section

variable {x : Rat} {e : Int}

theorem mul_two_zpow (x : Rat) (e t : Int) : x * 2 ^ e * 2 ^ t = x * 2 ^ (e + t) := by
  rw [mul_assoc, zpow_add₀ two_ne_zero]

theorem mul_lt_two_zpow_iff (k : Nat) : x * 2 ^ e < 2 ^ (e + k) ↔ x < 2 ^ k := by
  rw [add_comm, zpow_add₀ two_ne_zero, zpow_natCast, mul_lt_mul_iff_left₀ (zpow_pos two_pos e)]

theorem two_zpow_le_mul_iff (k : Nat) : 2 ^ (e + k) ≤ x * 2 ^ e ↔ 2 ^ k ≤ x := by
  rw [add_comm, zpow_add₀ two_ne_zero, zpow_natCast, mul_le_mul_iff_left₀ (zpow_pos two_pos e)]

end

variable {b : Binary} {q : Rat}

theorem Takes.lt (h : b.Takes q) (normal : b.IsNormal) : q < 2 ^ (b.exponent + 53) := by
  obtain ⟨x, rfl⟩ := b.eq_mul q
  obtain ⟨-, hhigh, -⟩ := takes_mul_iff.mp h
  have hle : (b.significand : Rat) + 1 ≤ 2 ^ 53 := by exact_mod_cast normal.lt
  exact (mul_lt_two_zpow_iff 53).mpr (by linarith)

theorem Takes.ge (h : b.Takes q) (normal : b.IsNormal) (hmin : b.exponent ≠ -1074) :
    2 ^ (b.exponent + 51) ≤ q := by
  obtain ⟨x, rfl⟩ := b.eq_mul q
  obtain ⟨hlow, -, -⟩ := takes_mul_iff.mp h
  have hgap := b.gap_le
  have hle : (2 : Rat) ^ 52 ≤ b.significand := by exact_mod_cast normal.first.resolve_right hmin
  exact (two_zpow_le_mul_iff 51).mpr (by linarith)

theorem Takes.isEdge_of_lt (h : b.Takes q) (normal : b.IsNormal) (hmin : b.exponent ≠ -1074)
    (hq : q < 2 ^ (b.exponent + 52)) : b.isEdge := by
  obtain ⟨x, rfl⟩ := b.eq_mul q
  obtain ⟨hlow, -, -⟩ := takes_mul_iff.mp h
  have hgap := b.gap_le
  have hlt : x < 2 ^ 52 := (mul_lt_two_zpow_iff 52).mp hq
  have hfirst : b.significand < 2 ^ 52 + 1 := by
    have hlt : (b.significand : Rat) < 2 ^ 52 + 1 := by linarith
    exact_mod_cast hlt
  have hge := normal.first.resolve_right hmin
  exact normal.edge.mpr ⟨by omega, hmin⟩

theorem Takes.ge_least (h : b.Takes q) (normal : b.IsNormal) : 2 ^ (-1075 : Int) ≤ q := by
  obtain ⟨x, rfl⟩ := b.eq_mul q
  obtain ⟨hlow, -, -⟩ := takes_mul_iff.mp h
  have hgap := b.gap_le
  have hone : (1 : Rat) ≤ b.significand := by exact_mod_cast normal.pos
  have hhalf : (2 : Rat) ^ (-1 : Int) ≤ x := by
    rw [zpow_neg_one]
    linarith
  calc
    (2 : Rat) ^ (-1075 : Int) = 2 ^ (-1 : Int) * 2 ^ (-1074 : Int) := by
      rw [← zpow_add₀ two_ne_zero]
      rfl
    _ ≤ x * 2 ^ b.exponent :=
      mul_le_mul hhalf (zpow_le_zpow_right₀ one_le_two normal.least) (by positivity)
        (le_trans (by positivity) hhalf)

theorem Takes.lt_most (h : b.Takes q) (normal : b.IsNormal) : q < 2 ^ (1024 : Int) :=
  (h.lt normal).trans_le (zpow_le_zpow_right₀ one_le_two (by linarith [normal.most]))

theorem Takes.roundsTo (h : b.Takes q) : RoundsTo (q * 2 ^ (-b.exponent)) b.significand := by
  obtain ⟨x, rfl⟩ := b.eq_mul q
  obtain ⟨hlow, hhigh, hodd⟩ := takes_mul_iff.mp h
  have hgap := b.gap_le
  rw [mul_two_zpow, add_neg_cancel, zpow_zero, mul_one]
  exact ⟨by linarith, hhigh, fun hs => ⟨by linarith [(hodd hs).1], (hodd hs).2⟩⟩

/-- Below a power of two the last bit counts half as much. -/
theorem Takes.roundsTo_edge (h : b.Takes q) (normal : b.IsNormal) (edge : b.isEdge)
    (hq : q < 2 ^ (b.exponent + 52)) : RoundsTo (q * 2 ^ (1 - b.exponent)) (2 ^ 53) := by
  obtain ⟨x, rfl⟩ := b.eq_mul q
  obtain ⟨hlow, -, -⟩ := takes_mul_iff.mp h
  have hgap : b.gap = 1 / 4 := if_pos edge
  have hlt : x < 2 ^ 52 := (mul_lt_two_zpow_iff 52).mp hq
  rw [(normal.edge.mp edge).1, hgap] at hlow
  push_cast at hlow
  rw [mul_two_zpow, add_sub_cancel, zpow_one]
  refine ⟨?_, ?_, fun hodd => absurd hodd (by decide)⟩
  · push_cast
    linarith
  · push_cast
    linarith

end Binary

/-! ## Rounding -/

theorem targetExponent_eq (total : Int) :
    Format.binary64.targetExponent total = max (total - 53) (-1074) := rfl

theorem shiftToTargetExponent_eq (m : Nat) (e : Int) (accuracy : Accuracy) {t : Int}
    (ht : Format.binary64.targetExponent (totalExponent m e) = t) (he : e ≤ t) :
    shiftToTargetExponent Format.binary64 m e accuracy =
      (ExtendedMantissa.ofMantissaAndAccuracy m accuracy >>> (t - e).toNat, t) := by
  simp only [shiftToTargetExponent, shiftToExponent, ht, Prod.mk.injEq, true_and]
  omega

theorem shiftToTargetExponent_of_lt {n : Nat} {t : Int} (hn : n < 2 ^ 53) (ht : -1074 ≤ t) :
    shiftToTargetExponent Format.binary64 n t .exact = (⟨n, false, false⟩, t) := by
  have hlog : n.log2 < 53 := by
    by_cases hzero : n = 0
    · simp [hzero]
    · exact (Nat.log2_lt hzero).mpr hn
  have htarget : Format.binary64.targetExponent (totalExponent n t) ≤ t := by
    rw [targetExponent_eq, totalExponent]
    omega
  have hnone : (Format.binary64.targetExponent (totalExponent n t) - t).toNat = 0 := by omega
  simp only [shiftToTargetExponent, shiftToExponent, hnone, Nat.cast_zero, add_zero]
  rfl

theorem shiftToTargetExponent_two_pow {t : Int} (ht : -1074 ≤ t) :
    shiftToTargetExponent Format.binary64 (2 ^ 53) t .exact = (⟨2 ^ 52, false, false⟩, t + 1) := by
  have htarget : Format.binary64.targetExponent (totalExponent (2 ^ 53) t) = t + 1 := by
    rw [targetExponent_eq, totalExponent, Nat.log2_two_pow]
    omega
  rw [shiftToTargetExponent_eq _ _ _ htarget (by omega), add_sub_cancel_left]
  rfl

section

variable {m : Nat} {e t : Int} {accuracy : Accuracy} {r : Rat}

theorem exists_roundedMantissa (stands : Stands (.ofMantissaAndAccuracy m accuracy) r)
    (ht : Format.binary64.targetExponent (totalExponent m e) = t) (he : e ≤ t) {n : Nat}
    (hn : RoundsTo (r * 2 ^ (e - t)) n) :
    ∃ em, shiftToTargetExponent Format.binary64 m e accuracy = (em, t) ∧
      em.roundedMantissa = n := by
  refine ⟨_, shiftToTargetExponent_eq m e accuracy ht he, ?_⟩
  have hshift : r / 2 ^ (t - e).toNat = r * 2 ^ (e - t) := by
    rw [div_eq_mul_inv, ← zpow_natCast, Int.toNat_of_nonneg (by omega), ← zpow_neg, neg_sub]
  exact (hshift ▸ (stands.shiftRight _).roundsTo).unique hn

theorem least_le_of_targetExponent (ht : Format.binary64.targetExponent (totalExponent m e) = t) :
    -1074 ≤ t := by
  rw [← ht, targetExponent_eq]
  exact le_max_right _ _

theorem roundWithAccuracy_of_second (stands : Stands (.ofMantissaAndAccuracy m accuracy) r)
    (ht : Format.binary64.targetExponent (totalExponent m e) = t) (he : e ≤ t) {n : Nat}
    (hn : RoundsTo (r * 2 ^ (e - t)) n) {final : ExtendedMantissa} {t' : Int}
    (second : shiftToTargetExponent Format.binary64 n t .exact = (final, t'))
    (pos : 0 < final.mantissa) (s : Sign) :
    roundWithAccuracy Format.binary64 s m e accuracy = .finite s final.mantissa t' pos := by
  obtain ⟨em, hfirst, hrounded⟩ := exists_roundedMantissa stands ht he hn
  rw [roundWithAccuracy, hfirst]
  dsimp only
  rw [hrounded, second]
  exact dif_neg pos.ne'

theorem roundWithAccuracy_of_lt (stands : Stands (.ofMantissaAndAccuracy m accuracy) r)
    (ht : Format.binary64.targetExponent (totalExponent m e) = t) (he : e ≤ t) {n : Nat}
    (hn : RoundsTo (r * 2 ^ (e - t)) n) (pos : 0 < n) (hlt : n < 2 ^ 53) (s : Sign) :
    roundWithAccuracy Format.binary64 s m e accuracy = .finite s n t pos := by
  have hsecond := shiftToTargetExponent_of_lt hlt (least_le_of_targetExponent ht)
  exact roundWithAccuracy_of_second stands ht he hn hsecond pos s

theorem roundWithAccuracy_two_pow (stands : Stands (.ofMantissaAndAccuracy m accuracy) r)
    (ht : Format.binary64.targetExponent (totalExponent m e) = t) (he : e ≤ t)
    (hn : RoundsTo (r * 2 ^ (e - t)) (2 ^ 53)) (s : Sign) :
    roundWithAccuracy Format.binary64 s m e accuracy = .finite s (2 ^ 52) (t + 1) (by decide) := by
  have hsecond := shiftToTargetExponent_two_pow (least_le_of_targetExponent ht)
  exact roundWithAccuracy_of_second stands ht he hn hsecond (by decide) s

theorem floor_of_stands (stands : Stands (.ofMantissaAndAccuracy m accuracy) r) :
    m ≤ r ∧ r < m + 1 := by
  have hmantissa : (ExtendedMantissa.ofMantissaAndAccuracy m accuracy).mantissa = m := by
    fun_cases ExtendedMantissa.ofMantissaAndAccuracy m accuracy <;> rfl
  exact hmantissa ▸ stands.floor

theorem lt_two_zpow_totalExponent (stands : Stands (.ofMantissaAndAccuracy m accuracy) r) :
    r * 2 ^ e < 2 ^ totalExponent m e := by
  have hlog : (m : Rat) + 1 ≤ 2 ^ (m.log2 + 1) := by exact_mod_cast Nat.lt_log2_self
  have htotal : totalExponent m e = e + (m.log2 + 1 : Nat) := by
    rw [totalExponent]
    omega
  rw [htotal, Binary.mul_lt_two_zpow_iff]
  exact (floor_of_stands stands).2.trans_le hlog

theorem two_zpow_le_of_ne_zero (stands : Stands (.ofMantissaAndAccuracy m accuracy) r)
    (hm : m ≠ 0) : 2 ^ (totalExponent m e - 1) ≤ r * 2 ^ e := by
  have hlog : (2 : Rat) ^ m.log2 ≤ m := by exact_mod_cast Nat.log2_self_le hm
  have htotal : totalExponent m e - 1 = e + m.log2 := by
    rw [totalExponent]
    omega
  rw [htotal, Binary.two_zpow_le_mul_iff]
  exact hlog.trans (floor_of_stands stands).1

end

namespace Binary

variable {b : Binary} {m : Nat} {e : Int} {accuracy : Accuracy} {r : Rat}

theorem Takes.targetExponent_cases (h : b.Takes (r * 2 ^ e)) (normal : b.IsNormal)
    (stands : Stands (.ofMantissaAndAccuracy m accuracy) r)
    (he : e ≤ Format.binary64.targetExponent (totalExponent m e)) :
    Format.binary64.targetExponent (totalExponent m e) = b.exponent ∨
      Format.binary64.targetExponent (totalExponent m e) = b.exponent - 1 ∧ b.isEdge ∧
        r * 2 ^ e < 2 ^ (b.exponent + 52) := by
  have hupper := lt_two_zpow_totalExponent (e := e) stands
  have hleast := normal.least
  rw [targetExponent_eq] at he ⊢
  have hle : max (totalExponent m e - 53) (-1074) ≤ b.exponent := by
    by_cases hm : m = 0
    · subst hm
      simp only [totalExponent, Nat.log2_zero] at he ⊢
      omega
    · have hlower := (two_zpow_le_of_ne_zero stands hm).trans_lt (h.lt normal)
      rw [zpow_lt_zpow_iff_right₀ one_lt_two] at hlower
      omega
  by_cases hmin : b.exponent = -1074
  · left
    omega
  -- Below the power of two that the float is, a number has one bit more.
  by_cases hq : 2 ^ (b.exponent + 52) ≤ r * 2 ^ e
  · have hlt := hq.trans_lt hupper
    rw [zpow_lt_zpow_iff_right₀ one_lt_two] at hlt
    left
    omega
  · have hlt := (h.ge normal hmin).trans_lt hupper
    rw [zpow_lt_zpow_iff_right₀ one_lt_two] at hlt
    rw [not_le] at hq
    have hedge := h.isEdge_of_lt normal hmin hq
    rcases (by omega : max (totalExponent m e - 53) (-1074) = b.exponent ∨
      max (totalExponent m e - 53) (-1074) = b.exponent - 1) with heq | heq
    · exact .inl heq
    · exact .inr ⟨heq, hedge, hq⟩

theorem Takes.roundWithAccuracy_eq (h : b.Takes (r * 2 ^ e)) (normal : b.IsNormal)
    (stands : Stands (.ofMantissaAndAccuracy m accuracy) r)
    (he : e ≤ Format.binary64.targetExponent (totalExponent m e)) (s : Sign) :
    roundWithAccuracy Format.binary64 s m e accuracy =
      .finite s b.significand b.exponent normal.pos := by
  have hscale (t : Int) : r * 2 ^ (e - t) = r * 2 ^ e * 2 ^ (-t) := (mul_two_zpow r e (-t)).symm
  rcases h.targetExponent_cases normal stands he with ht | ⟨ht, hedge, hq⟩
  · rw [ht] at he
    exact roundWithAccuracy_of_lt stands ht he (hscale _ ▸ h.roundsTo) normal.pos normal.lt s
  · obtain ⟨hfirst, -⟩ := normal.edge.mp hedge
    rw [ht] at he
    have hrounds := h.roundsTo_edge normal hedge hq
    rw [roundWithAccuracy_two_pow stands ht he (by rwa [hscale, neg_sub]) s, finite.injEq]
    exact ⟨rfl, hfirst.symm, sub_add_cancel b.exponent 1⟩

end Binary

end WorkerMemory.Decimal
