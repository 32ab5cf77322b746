import Mathlib
import WorkerMemory.Proofs.Decimal.Rounding

/-! # The bits of a float -/

namespace WorkerMemory.Decimal

open Float.Model Float.Model.UnpackedFloat

/-! ## Sign, exponent and fraction -/

/-- The bits but for the sign. -/
def magnitude (x : Float) : Nat := x.toBits.toNat % 2 ^ 63

def isNegative (x : Float) : Bool := 2 ^ 63 ≤ x.toBits.toNat

def signOf (x : Float) : Sign := if isNegative x then .negative else .positive

section

variable (x : Float)

theorem magnitude_lt : magnitude x < 2 ^ 63 := Nat.mod_lt _ (by decide)

theorem toNat_unpackMantissa :
    (@unpackMantissa Format.binary64 x.toBits.toBitVec).toNat = magnitude x % 2 ^ 52 := by
  rw [unpackMantissa_def, BitVec.extractLsb'_toNat, Nat.shiftRight_zero, magnitude,
    Nat.mod_mod_of_dvd _ (by decide)]
  rfl

theorem toNat_unpackExponent :
    (@unpackExponent Format.binary64 x.toBits.toBitVec).toNat = magnitude x / 2 ^ 52 := by
  rw [unpackExponent_def, BitVec.extractLsb'_toNat, Nat.shiftRight_eq_div_pow, magnitude]
  change x.toBits.toNat / 2 ^ 52 % 2 ^ 11 = _
  omega

theorem ofBitVec_unpackSign :
    Sign.ofBitVec (@unpackSign Format.binary64 x.toBits.toBitVec) = signOf x := by
  have hbit : (@unpackSign Format.binary64 x.toBits.toBitVec).toNat = x.toBits.toNat / 2 ^ 63 := by
    rw [unpackSign_def, BitVec.extractLsb'_toNat, Nat.shiftRight_eq_div_pow]
    change x.toBits.toNat / 2 ^ 63 % 2 ^ 1 = _
    have := x.toBits.toNat_lt
    omega
  unfold signOf isNegative Sign.ofBitVec
  by_cases hneg : 2 ^ 63 ≤ x.toBits.toNat
  · have hone : @unpackSign Format.binary64 x.toBits.toBitVec ≠ 0#1 := by
      intro hzero
      rw [hzero] at hbit
      change 0 = _ at hbit
      omega
    rw [if_neg hone, decide_eq_true hneg]
    rfl
  · have hzero : @unpackSign Format.binary64 x.toBits.toBitVec = 0#1 := by
      apply BitVec.eq_of_toNat_eq
      rw [hbit]
      change _ = 0
      omega
    rw [if_pos hzero, decide_eq_false hneg]
    rfl

theorem unpackExponent_eq_iff (n : BitVec 11) :
    @unpackExponent Format.binary64 x.toBits.toBitVec = n ↔ magnitude x / 2 ^ 52 = n.toNat := by
  rw [← toNat_unpackExponent, BitVec.toNat_inj]

theorem unpackMantissa_eq_zero_iff :
    @unpackMantissa Format.binary64 x.toBits.toBitVec = 0#52 ↔ magnitude x % 2 ^ 52 = 0 := by
  rw [← toNat_unpackMantissa]
  exact BitVec.toNat_inj.symm

theorem toNat_append_unpackMantissa :
    (1#1 ++ @unpackMantissa Format.binary64 x.toBits.toBitVec).toNat =
      2 ^ 52 + magnitude x % 2 ^ 52 := by
  rw [BitVec.toNat_append, toNat_unpackMantissa,
    ← Nat.shiftLeft_add_eq_or_of_lt (Nat.mod_lt _ (by decide))]
  rfl

theorem unpack_eq : x.toModel.unpack =
    if magnitude x / 2 ^ 52 = 2047 then
      if magnitude x % 2 ^ 52 = 0 then .infinity (signOf x) else .notANumber
    else if magnitude x / 2 ^ 52 = 0 then
      if h : magnitude x % 2 ^ 52 = 0 then .zero (signOf x)
      else .finite (signOf x) (magnitude x % 2 ^ 52) (-1074) (Nat.pos_of_ne_zero h)
    else .finite (signOf x) (2 ^ 52 + magnitude x % 2 ^ 52) ((magnitude x / 2 ^ 52 : Nat) - 1075)
      (by omega) := by
  change UnpackedFloat.unpack Format.binary64 x.toBits.toBitVec = _
  have hinfinity := unpackExponent_eq_iff x (-1#11)
  have hzero := unpackExponent_eq_iff x 0#11
  change _ ↔ _ = 2047 at hinfinity
  change _ ↔ _ = 0 at hzero
  unfold UnpackedFloat.unpack
  simp only
  rw [ofBitVec_unpackSign]
  split
  · next h =>
    rw [if_pos (hinfinity.mp h)]
    split
    · next hmantissa => rw [if_pos ((unpackMantissa_eq_zero_iff x).mp hmantissa)]
    · next hmantissa => rw [if_neg (mt (unpackMantissa_eq_zero_iff x).mpr hmantissa)]
  · next h =>
    rw [if_neg (mt hinfinity.mpr h)]
    split
    · next h =>
      rw [if_pos (hzero.mp h)]
      split
      · next hmantissa => rw [dif_pos ((unpackMantissa_eq_zero_iff x).mp hmantissa)]
      · next hmantissa =>
        rw [dif_neg (mt (unpackMantissa_eq_zero_iff x).mpr hmantissa), finite.injEq]
        exact ⟨rfl, toNat_unpackMantissa x, by rw [h]; rfl⟩
    · next h =>
      rw [if_neg (mt hzero.mpr h), finite.injEq]
      exact ⟨rfl, toNat_append_unpackMantissa x, by rw [toNat_unpackExponent]; rfl⟩

end

/-! ## Floats by their bits -/

section

variable {x : Float}

theorem unpack_of_zero (h : magnitude x = 0) : x.toModel.unpack = .zero (signOf x) := by
  rw [unpack_eq, if_neg (by omega), if_pos (by omega), dif_pos (by omega)]

theorem unpack_of_infinity (h : magnitude x = 0x7FF <<< 52) :
    x.toModel.unpack = .infinity (signOf x) := by
  have heq : magnitude x = 2047 * 2 ^ 52 := h
  rw [unpack_eq, if_pos (by omega), if_pos (by omega)]

theorem unpack_of_nan (h : 0x7FF <<< 52 < magnitude x) : x.toModel.unpack = .notANumber := by
  have hlt : 2047 * 2 ^ 52 < magnitude x := h
  have hmost := magnitude_lt x
  rw [unpack_eq, if_pos (by omega), if_neg (by omega)]

theorem ofBits_eq {bits : Nat} (lt : bits < 0x7FF <<< 52) : Binary.ofBits bits =
    if bits / 2 ^ 52 = 0 then ⟨bits % 2 ^ 52, -1074, false⟩
    else ⟨2 ^ 52 + bits % 2 ^ 52, (bits / 2 ^ 52 : Nat) - 1075,
      bits % 2 ^ 52 = 0 ∧ 1 < bits / 2 ^ 52⟩ := by
  have hlt : bits < 2047 * 2 ^ 52 := lt
  have hfield : (bits >>> 52) % 0x800 = bits / 2 ^ 52 := by
    rw [Nat.shiftRight_eq_div_pow]
    omega
  rw [← hfield]
  rfl

theorem isNormal_ofBits {bits : Nat} (pos : 0 < bits) (lt : bits < 0x7FF <<< 52) :
    (Binary.ofBits bits).IsNormal := by
  have hlt : bits < 2047 * 2 ^ 52 := lt
  rw [ofBits_eq lt]
  split
  · constructor <;> simp <;> omega
  · constructor <;> simp <;> omega

theorem unpack_of_finite (pos : 0 < magnitude x) (lt : magnitude x < 0x7FF <<< 52) :
    x.toModel.unpack =
      .finite (signOf x) (Binary.ofBits (magnitude x)).significand
        (Binary.ofBits (magnitude x)).exponent (isNormal_ofBits pos lt).pos := by
  have hlt : magnitude x < 2047 * 2 ^ 52 := lt
  rw [unpack_eq, if_neg (by omega)]
  split
  · next hzero =>
    rw [dif_neg (by omega), finite.injEq, ofBits_eq lt, if_pos hzero]
    exact ⟨rfl, rfl, rfl⟩
  · next hne =>
    rw [finite.injEq, ofBits_eq lt, if_neg hne]
    exact ⟨rfl, rfl, rfl⟩

end

/-! ## Packing -/

theorem pack_unpack_toModel (x : Float) : Float.Model.pack x.toModel.unpack = x.toModel := by
  have hbits : UnpackedFloat.pack Format.binary64 x.toModel.unpack = x.toBits.toBitVec :=
    pack_unpack_of_valid x.toModel.valid
  unfold Float.Model.pack
  simp only [hbits]
  rfl

theorem eq_of_unpack {x y : Float} (h : x.toModel.unpack = y.toModel.unpack) : x = y := by
  have hmodel := pack_unpack_toModel x
  rw [h, pack_unpack_toModel] at hmodel
  exact congrArg Float.ofModel hmodel.symm

theorem eq_neg_of_unpack {x y : Float} (h : x.toModel.unpack = y.toModel.unpack.neg) : x = -y := by
  have hmodel := pack_unpack_toModel x
  rw [h] at hmodel
  exact congrArg Float.ofModel hmodel.symm

theorem unpack_pack_of_le {m : Nat} {e : Int} (first : 2 ^ 52 ≤ m) (lt : m < 2 ^ 53)
    (least : -1074 ≤ e) (most : e ≤ 971) (s : Sign) (pos : 0 < m) :
    (Float.Model.pack (.finite s m e pos)).unpack = .finite s m e pos := by
  have hlog : m.log2 = 52 := (Nat.log2_eq_iff pos.ne').mpr ⟨first, lt⟩
  have hbiased : ((e + 1023 + 52).toNat : Int) = e + 1075 := by omega
  have hpacked : UnpackedFloat.pack Format.binary64 (.finite s m e pos) =
      packComponents Format.binary64 s (BitVec.ofNat 11 (e + 1023 + 52).toNat)
        (BitVec.ofNat 52 m) := by
    have hfinite : ¬ 2 ^ 11 ≤ (e + 1023 + 52).toNat + 1 := by omega
    exact (if_neg hfinite).trans (if_pos (congrArg (· + 1) hlog))
  change UnpackedFloat.unpack Format.binary64 (UnpackedFloat.pack Format.binary64 _) = _
  generalize (e + 1023 + 52).toNat = biased at hbiased hpacked
  rw [hpacked, UnpackedFloat.unpack]
  simp only [unpackExponent_packComponents, unpackMantissa_packComponents,
    unpackSign_packComponents, Sign.ofBitVec_toBitVec]
  have hexponent : (BitVec.ofNat 11 biased).toNat = biased := Nat.mod_eq_of_lt (by omega)
  have hinfinity : BitVec.ofNat 11 biased ≠ -1#11 := by
    rw [Ne, ← BitVec.toNat_inj, hexponent]
    change biased ≠ 2047
    omega
  have hzero : BitVec.ofNat 11 biased ≠ 0#11 := by
    rw [Ne, ← BitVec.toNat_inj, hexponent]
    change biased ≠ 0
    omega
  rw [if_neg hinfinity, if_neg hzero, finite.injEq]
  refine ⟨rfl, ?_, ?_⟩
  · rw [BitVec.toNat_append, ← Nat.shiftLeft_add_eq_or_of_lt (BitVec.isLt _)]
    change 2 ^ 52 + m % 2 ^ 52 = m
    omega
  · rw [hexponent]
    change (biased : Int) - 1075 = e
    omega

theorem unpack_pack_of_lt {m : Nat} (lt : m < 2 ^ 52) (s : Sign) (pos : 0 < m) :
    (Float.Model.pack (.finite s m (-1074) pos)).unpack = .finite s m (-1074) pos := by
  have hlog : m.log2 < 52 := (Nat.log2_lt pos.ne').mpr lt
  have hpacked (e : Int) (least : e = -1074) :
      UnpackedFloat.pack Format.binary64 (.finite s m e pos) =
        packComponents Format.binary64 s 0#11 (BitVec.ofNat 52 m) := by
    have hfinite : ¬ 2 ^ 11 ≤ (e + 1023 + 52).toNat + 1 := by omega
    have hsmall : m.log2 + 1 ≠ 53 := by omega
    exact (if_neg hfinite).trans (if_neg hsmall)
  have hmantissa : (BitVec.ofNat 52 m).toNat = m := Nat.mod_eq_of_lt lt
  have hne : BitVec.ofNat 52 m ≠ 0#52 := by
    rw [Ne, ← BitVec.toNat_inj, hmantissa]
    exact pos.ne'
  change UnpackedFloat.unpack Format.binary64 (UnpackedFloat.pack Format.binary64 _) = _
  rw [hpacked _ rfl, UnpackedFloat.unpack]
  simp only [unpackExponent_packComponents, unpackMantissa_packComponents,
    unpackSign_packComponents, Sign.ofBitVec_toBitVec]
  rw [if_neg (by decide), if_pos trivial, dif_neg hne, finite.injEq]
  exact ⟨rfl, hmantissa, rfl⟩

namespace Binary

def toFloat (b : Binary) (pos : 0 < b.significand) : Float :=
  ⟨Float.Model.pack (.finite .positive b.significand b.exponent pos)⟩

theorem unpack_toFloat {b : Binary} (normal : b.IsNormal) :
    (b.toFloat normal.pos).toModel.unpack =
      .finite .positive b.significand b.exponent normal.pos := by
  by_cases first : 2 ^ 52 ≤ b.significand
  · exact unpack_pack_of_le first normal.lt normal.least normal.most _ _
  · have hleast := normal.first.resolve_left first
    rw [toFloat]
    simp only [hleast]
    exact unpack_pack_of_lt (not_le.mp first) _ _

end Binary

end WorkerMemory.Decimal
