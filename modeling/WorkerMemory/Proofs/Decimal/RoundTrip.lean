import WorkerMemory.Proofs.Decimal.Nearest
import WorkerMemory.Proofs.Decimal.Printed
import WorkerMemory.Proofs.Decimal.Shortest
import WorkerMemory.Proofs.Decimal.Spelling

/-! # Printed floats are read back -/

namespace WorkerMemory.Decimal

/-! ## Digits -/

theorem exists_significand_positional (d : Digits) :
    ∃ n places, Significand d.positional n places ∧
      (n * 10 ^ (-places : Int) : Rat) = d.digits * 10 ^ d.exponent := by
  obtain ⟨n, exponent⟩ := d
  cases exponent with
  | ofNat e =>
    refine ⟨n * 10 ^ e, 0, .whole (Numeral.natural?_eq_some_iff.mp (Numeral.natural?_ofNat _)), ?_⟩
    rw [Int.ofNat_eq_natCast, zpow_natCast]
    push_cast
    ring
  | negSucc e =>
    rw [positional_negSucc]
    simp only
    -- Zeros at the end are left out, and there are fewer places then.
    let last := Numeral.padded (e + 1) (n % 10 ^ (e + 1))
    let fraction := last.rdropWhile (· == '0')
    let zeros := last.rtakeWhile (· == '0')
    let digits := Numeral.ofNat (n / 10 ^ (e + 1)) ++ fraction
    have hlast : fraction ++ zeros = last := List.rdropWhile_append_rtakeWhile
    have hzeros : zeros = List.replicate zeros.length '0' := by
      apply List.eq_replicate_length.mpr
      intro c hc
      have hzero := List.mem_rtakeWhile_imp hc
      exact eq_of_beq hzero
    have hall : digits ++ List.replicate zeros.length '0' = Numeral.padded (e + 2) n := by
      rw [← hzeros, Numeral.padded_eq_append, List.append_assoc, hlast]
    have hdigits : Numeral.Digits digits (Nat.ofDigitChars 10 digits 0) := by
      refine ⟨List.append_ne_nil_of_left_ne_nil (Numeral.ofNat_ne_nil _) _, ?_, rfl⟩
      intro c hc
      exact Numeral.isDigit_of_mem_padded (hall ▸ List.mem_append_left _ hc)
    have hn : 10 ^ zeros.length * Nat.ofDigitChars 10 digits 0 = n := by
      have hvalue := (Numeral.natural?_eq_some_iff.mp (Numeral.natural?_padded (e + 2) n)).value
      rwa [← hall, Nat.ofDigitChars_append, Nat.ofDigitChars_replicate_zero] at hvalue
    have hlength : fraction.length + zeros.length = e + 1 := by
      rw [← List.length_append, hlast]
      exact Numeral.length_padded (Nat.succ_pos e) (Nat.mod_lt _ (Nat.pow_pos (by decide)))
    refine ⟨Nat.ofDigitChars 10 digits 0, fraction.length, ?_, ?_⟩
    · split
      · next hempty =>
        have hnil : fraction = [] := List.isEmpty_iff.mp hempty
        have hwhole : digits = Numeral.ofNat (n / 10 ^ (e + 1)) := by
          rw [← List.append_nil (Numeral.ofNat _), ← hnil]
        rw [hnil, ← hwhole]
        exact .whole hdigits
      · exact .pointed hdigits
    · conv_rhs => rw [← hn]
      rw [zpow_negSucc, ← hlength, pow_add, zpow_neg, zpow_natCast]
      push_cast
      field_simp

theorem unsigned_positional {b : Binary} (normal : b.IsNormal) {d : Digits}
    (takes : b.Takes (d.digits * 10 ^ d.exponent)) :
    Unsigned d.positional (b.toFloat normal.pos) := by
  obtain ⟨n, places, hsignificand, hvalue⟩ := exists_significand_positional d
  rw [← hvalue] at takes
  have hnumber := Unsigned.number hsignificand .none
  rwa [List.append_nil, zero_sub, Binary.nearestFloat_eq normal takes] at hnumber

/-! ## Floats -/

section

open Float.Model.UnpackedFloat

variable {x : Float}

theorem unpack_inf : (1.0 / 0.0 : Float).toModel.unpack = .infinity .positive := rfl

theorem unpack_nan : (0.0 / 0.0 : Float).toModel.unpack = .notANumber := rfl

theorem unpack_zero : (0.0 : Float).toModel.unpack = .zero .positive := rfl

theorem eq_nan (h : 0x7FF <<< 52 < magnitude x) : x = 0.0 / 0.0 :=
  eq_of_unpack ((unpack_of_nan h).trans unpack_nan.symm)

theorem unsigned_text (h : magnitude x ≤ 0x7FF <<< 52) : ∃ y,
    Unsigned (if magnitude x = 0x7FF <<< 52 then ['i', 'n', 'f']
      else if magnitude x = 0 then ['0']
      else (Binary.ofBits (magnitude x)).shortest.positional) y ∧
    x.toModel.unpack = if isNegative x then y.toModel.unpack.neg else y.toModel.unpack := by
  by_cases hinfinity : magnitude x = 0x7FF <<< 52
  · rw [if_pos hinfinity]
    refine ⟨1.0 / 0.0, .infinity (.inl rfl), ?_⟩
    rw [unpack_of_infinity hinfinity, unpack_inf, signOf]
    split <;> rfl
  rw [if_neg hinfinity]
  by_cases hzero : magnitude x = 0
  · rw [if_pos hzero]
    have hsignificand : Significand ['0'] 0 0 :=
      .whole (Numeral.natural?_eq_some_iff.mp (Numeral.natural?_ofNat 0))
    refine ⟨0.0, .number hsignificand .none, ?_⟩
    rw [unpack_of_zero hzero, unpack_zero, signOf]
    split <;> rfl
  · rw [if_neg hzero]
    have pos := Nat.pos_of_ne_zero hzero
    have lt := lt_of_le_of_ne h hinfinity
    have normal := isNormal_ofBits pos lt
    refine ⟨_, unsigned_positional normal (Binary.shortest_takes normal), ?_⟩
    rw [unpack_of_finite pos lt, Binary.unpack_toFloat normal, signOf]
    split <;> rfl

theorem spells_signed {y : Float} {cs : List Char} (h : Unsigned cs y)
    (unpack : x.toModel.unpack = if isNegative x then y.toModel.unpack.neg else y.toModel.unpack) :
    Spells (if isNegative x then '-' :: cs else cs) x := by
  split at unpack
  · next hneg =>
    rw [if_pos hneg, eq_neg_of_unpack unpack]
    exact .minus h
  · next hpos =>
    rw [if_neg hpos, eq_of_unpack unpack]
    exact .unsigned h

theorem toList_ofFloat (h : magnitude x ≤ 0x7FF <<< 52) :
    let text :=
      if magnitude x = 0x7FF <<< 52 then ['i', 'n', 'f']
      else if magnitude x = 0 then ['0']
      else (Binary.ofBits (magnitude x)).shortest.positional
    (ofFloat x).toList = if isNegative x then '-' :: text else text := by
  have hmagnitude : magnitude x = x.toBits.toNat % (1 <<< 63) := rfl
  have hsign : (isNegative x = true) = (1 <<< 63 ≤ x.toBits.toNat) := decide_eq_true_eq
  simp only [ofFloat, ← hmagnitude, hsign, if_neg (not_lt.mpr h), String.toList_ofList]

end

/-- Every float, infinity, negative zero and not-a-number too. -/
theorem spells_ofFloat (x : Float) : Spells (ofFloat x).toList x := by
  rcases lt_or_ge (0x7FF <<< 52) (magnitude x) with hnan | hle
  · have htext : ofFloat x = "NaN" := if_pos hnan
    rw [htext, eq_nan hnan]
    exact .unsigned (.notANumber rfl)
  · obtain ⟨y, hunsigned, hunpack⟩ := unsigned_text hle
    rw [toList_ofFloat hle]
    exact spells_signed hunsigned hunpack

end WorkerMemory.Decimal
