import Mathlib.Algebra.Group.Nat.Defs
import WorkerMemory.Text.Numeral

/-! # Printed numbers are read back -/

namespace WorkerMemory

/-! ## Integers of fixed width -/

namespace Integer

theorem uint32?_toNat (n : UInt32) : uint32? n.toNat = some n := by
  rw [uint32?, if_pos ⟨Int.natCast_nonneg _, Int.ofNat_lt.mpr n.toNat_lt⟩, Int.toNat_natCast,
    UInt32.ofNat_toNat]

theorem uint64?_toNat (n : UInt64) : uint64? n.toNat = some n := by
  rw [uint64?, if_pos ⟨Int.natCast_nonneg _, Int.ofNat_lt.mpr n.toNat_lt⟩, Int.toNat_natCast,
    UInt64.ofNat_toNat]

theorem int64?_toInt (n : Int64) : int64? n.toInt = some n := by
  rw [int64?, if_pos ⟨n.minValue_le_toInt, n.toInt_le⟩, Int64.ofInt_toInt]

end Integer

namespace Numeral

/-! ## Numerals -/

theorem foldlM_digits {cs : List Char} (digits : ∀ c ∈ cs, c.isDigit) (n : Nat) :
    cs.foldlM (fun n c => (digit? c).map (10 * n + ·)) n = some (Nat.ofDigitChars 10 cs n) := by
  induction cs generalizing n with
  | nil => rfl
  | cons c cs ih =>
    rw [List.forall_mem_cons] at digits
    rw [List.foldlM_cons, digit?, if_pos digits.1, Nat.ofDigitChars_cons]
    exact ih digits.2 _

theorem natural?_of_digits {cs : List Char} (digits : ∀ c ∈ cs, c.isDigit) (hne : cs ≠ []) :
    natural? cs = some (Nat.ofDigitChars 10 cs 0) := by
  cases cs with
  | nil => exact absurd rfl hne
  | cons c cs => exact foldlM_digits digits 0

theorem isDigit_of_foldlM {cs : List Char} {n k : Nat}
    (h : cs.foldlM (fun n c => (digit? c).map (10 * n + ·)) n = some k) : ∀ c ∈ cs, c.isDigit := by
  induction cs generalizing n with
  | nil => simp
  | cons c cs ih =>
    obtain ⟨m, hm, hrest⟩ := Option.bind_eq_some_iff.mp h
    obtain ⟨d, hd, -⟩ := Option.map_eq_some_iff.mp hm
    have hdigit := (Option.ite_none_right_eq_some.mp hd).1
    exact List.forall_mem_cons.mpr ⟨hdigit, ih hrest⟩

theorem isDigit_of_natural? {cs : List Char} {n : Nat} (h : natural? cs = some n) :
    ∀ c ∈ cs, c.isDigit := by
  cases cs with
  | nil => contradiction
  | cons c cs => exact isDigit_of_foldlM h

theorem mem_of_unsigned? {cs : List Char} {n : Nat} (h : unsigned? cs = some n) :
    ∀ c ∈ cs, c.isDigit ∨ c = '+' := by
  revert h
  fun_cases unsigned? cs with
  | case1 cs =>
    intro h
    rw [List.forall_mem_cons]
    exact ⟨.inr rfl, fun c hc => .inl (isDigit_of_natural? h c hc)⟩
  | case2 => exact fun h c hc => .inl (isDigit_of_natural? h c hc)

theorem mem_of_signed? {cs : List Char} {z : Int} (h : signed? cs = some z) :
    ∀ c ∈ cs, c.isDigit ∨ c = '+' ∨ c = '-' := by
  revert h
  fun_cases signed? cs with
  | case1 cs =>
    intro h
    obtain ⟨_, h, -⟩ := Option.map_eq_some_iff.mp h
    obtain ⟨n, hn, -⟩ := Option.bind_eq_some_iff.mp h
    rw [List.forall_mem_cons]
    exact ⟨.inr (.inr rfl), fun c hc => .inl (isDigit_of_natural? hn c hc)⟩
  | case2 =>
    intro h
    obtain ⟨n, hn, -⟩ := Option.map_eq_some_iff.mp h
    exact fun c hc => (mem_of_unsigned? hn c hc).imp_right .inl

theorem unsigned?_of_digits {cs : List Char} (digits : ∀ c ∈ cs, c.isDigit) :
    unsigned? cs = natural? cs := by
  fun_cases unsigned? cs with
  | case1 cs =>
    have hplus := digits '+' List.mem_cons_self
    contradiction
  | case2 => rfl

theorem signed?_of_digits {cs : List Char} (digits : ∀ c ∈ cs, c.isDigit) :
    signed? cs = (natural? cs).map Int.ofNat := by
  fun_cases signed? cs with
  | case1 cs =>
    have hminus := digits '-' List.mem_cons_self
    contradiction
  | case2 => rw [unsigned?_of_digits digits]

theorem isDigit_of_mem_ofNat {n : Nat} {c : Char} (hc : c ∈ ofNat n) : c.isDigit :=
  Nat.isDigit_of_mem_toDigits (by decide) (by decide) hc

theorem ofNat_ne_nil (n : Nat) : ofNat n ≠ [] := Nat.toDigits_ne_nil

theorem exists_ofNat_eq_cons (n : Nat) : ∃ c cs, ofNat n = c :: cs ∧ c.isDigit := by
  obtain ⟨c, cs, h⟩ := List.exists_cons_of_ne_nil (ofNat_ne_nil n)
  exact ⟨c, cs, h, isDigit_of_mem_ofNat (h ▸ List.mem_cons_self)⟩

theorem natural?_ofNat (n : Nat) : natural? (ofNat n) = some n := by
  rw [natural?_of_digits (fun c => isDigit_of_mem_ofNat) Nat.toDigits_ne_nil]
  exact congrArg some Nat.ofDigitChars_ten_toDigits

theorem signed?_ofInt (z : Int) : signed? (ofInt z) = some z := by
  cases z with
  | ofNat n => rw [ofInt, signed?_of_digits fun c => isDigit_of_mem_ofNat, natural?_ofNat]; rfl
  | negSucc n => rw [ofInt, signed?, natural?_ofNat]; rfl

theorem int64?_ofInt (p : Int64) : int64? (ofInt p.toInt) = some p := by
  rw [int64?, signed?_ofInt, Option.bind_some, Integer.int64?_toInt]

theorem notMem_ofNat {c : Char} (hdigit : c.isDigit = false) (n : Nat) : c ∉ ofNat n := by
  intro h
  rw [isDigit_of_mem_ofNat h] at hdigit
  contradiction

theorem notMem_ofInt {c : Char} (hdigit : c.isDigit = false) (hminus : c ≠ '-') (z : Int) :
    c ∉ ofInt z := by
  cases z with
  | ofNat n => exact notMem_ofNat hdigit n
  | negSucc n => exact List.not_mem_cons_of_ne_of_not_mem hminus (notMem_ofNat hdigit (n + 1))

theorem ofInt_ne_nil (z : Int) : ofInt z ≠ [] := by
  cases z with
  | ofNat n => exact ofNat_ne_nil n
  | negSucc n => exact List.cons_ne_nil _ _

/-! ## Digits -/

theorem le_ofDigitChars (cs : List Char) (n : Nat) : n ≤ Nat.ofDigitChars 10 cs n := by
  induction cs generalizing n with
  | nil => simp
  | cons c cs ih =>
    rw [Nat.ofDigitChars_cons]
    exact Nat.le_trans (by omega) (ih _)

theorem head?_ofNat_ne_zero {n : Nat} (h : 0 < n) : (ofNat n).head? ≠ some '0' := by
  induction n using Nat.strongRecOn with
  | ind n ih =>
    unfold ofNat at ih ⊢
    rw [Nat.toDigits_eq_if (by decide)]
    split
    · have hdigit : ∀ d < 10, 0 < d → d.digitChar ≠ '0' := by decide
      simpa using hdigit n ‹_› h
    · rw [List.head?_append, List.head?_eq_some_head Nat.toDigits_ne_nil, Option.some_or,
        ← List.head?_eq_some_head]
      exact ih (n / 10) (by omega) (by omega)

theorem lt_pow_length_ofNat (n : Nat) : n < 10 ^ (ofNat n).length :=
  (Nat.length_toDigits_le_iff (by decide) (List.length_pos_iff.mpr (ofNat_ne_nil n))).mp
    (Nat.le_refl _)

theorem pow_length_ofNat_le {n : Nat} (h : 0 < n) : 10 ^ ((ofNat n).length - 1) ≤ n := by
  cases hlength : (ofNat n).length - 1 with
  | zero => exact h
  | succ k =>
    apply Nat.le_of_not_lt
    intro hlt
    have hle : (ofNat n).length ≤ k + 1 :=
      (Nat.length_toDigits_le_iff (by decide) k.succ_pos).mpr hlt
    omega

/-! ## Zeros in front and behind -/

theorem isDigit_of_mem_padded {w n : Nat} {c : Char} (hc : c ∈ padded w n) : c.isDigit := by
  unfold padded at hc
  rcases List.mem_append.mp hc with hc | hc
  · rw [(List.mem_replicate.mp hc).2]
    rfl
  · exact isDigit_of_mem_ofNat hc

theorem padded_ne_nil (w n : Nat) : padded w n ≠ [] := by
  unfold padded
  exact List.append_ne_nil_of_right_ne_nil _ Nat.toDigits_ne_nil

theorem length_padded {w n : Nat} (hw : 0 < w) (h : n < 10 ^ w) : (padded w n).length = w := by
  have hle : (ofNat n).length ≤ w := (Nat.length_toDigits_le_iff (by decide) hw).mpr h
  simp only [padded, List.length_append, List.length_replicate]
  omega

theorem natural?_padded (w n : Nat) : natural? (padded w n) = some n := by
  rw [natural?_of_digits (fun _ => isDigit_of_mem_padded) (padded_ne_nil w n), padded,
    Nat.ofDigitChars_append, Nat.ofDigitChars_replicate_zero, Nat.mul_zero]
  exact congrArg some Nat.ofDigitChars_ten_toDigits

theorem natural?_append_zeros (w n k : Nat) :
    natural? (padded w n ++ List.replicate k '0') = some (10 ^ k * n) := by
  have hdigits : ∀ c ∈ padded w n ++ List.replicate k '0', c.isDigit := by
    intro c hc
    rcases List.mem_append.mp hc with hc | hc
    · exact isDigit_of_mem_padded hc
    · rw [(List.mem_replicate.mp hc).2]
      rfl
  have hvalue := natural?_padded w n
  rw [natural?_of_digits (fun _ => isDigit_of_mem_padded) (padded_ne_nil w n)] at hvalue
  rw [natural?_of_digits hdigits (List.append_ne_nil_of_left_ne_nil (padded_ne_nil w n) _),
    Nat.ofDigitChars_append, Nat.ofDigitChars_replicate_zero, Option.some.inj hvalue]

theorem exists_padded_eq_cons (w n : Nat) : ∃ c cs, padded w n = c :: cs ∧ c.isDigit := by
  obtain ⟨c, cs, h⟩ := List.exists_cons_of_ne_nil (padded_ne_nil w n)
  exact ⟨c, cs, h, isDigit_of_mem_padded (h ▸ List.mem_cons_self)⟩

/-! ## The last digits -/

theorem ofNat_eq_append {n : Nat} (h : 10 ≤ n) : ofNat n = ofNat (n / 10) ++ ofNat (n % 10) := by
  have hn : n = 10 * (n / 10) + n % 10 := (Nat.div_add_mod n 10).symm
  have happend := Nat.toDigits_append_toDigits (b := 10) (n := n / 10) (d := n % 10) (by decide)
    (by omega) (by omega)
  rw [← hn] at happend
  exact happend.symm

theorem length_ofNat_digit (n : Nat) : (ofNat (n % 10)).length = 1 := by
  rw [ofNat, Nat.toDigits_of_lt_base (by omega), List.length_singleton]

theorem padded_one (n : Nat) : padded 1 n = ofNat n := by
  have hpos : 0 < (ofNat n).length := List.length_pos_iff.mpr (ofNat_ne_nil n)
  simp only [padded, Nat.sub_eq_zero_of_le hpos, List.replicate_zero, List.nil_append]

theorem padded_succ (w n : Nat) : padded (w + 2) n = padded (w + 1) (n / 10) ++ ofNat (n % 10) := by
  simp only [padded]
  by_cases h : 10 ≤ n
  · rw [ofNat_eq_append h, List.length_append, length_ofNat_digit,
      Nat.add_sub_add_right (w + 1) 1, List.append_assoc]
  · have hzero : ofNat 0 = ['0'] := rfl
    have hlength := length_ofNat_digit n
    rw [Nat.mod_eq_of_lt (by omega)] at hlength ⊢
    rw [Nat.div_eq_of_lt (by omega), hzero, hlength, List.length_singleton, Nat.add_sub_cancel,
      ← List.replicate_succ']
    rfl

theorem padded_eq_append (k n : Nat) :
    padded (k + 2) n = ofNat (n / 10 ^ (k + 1)) ++ padded (k + 1) (n % 10 ^ (k + 1)) := by
  induction k generalizing n with
  | zero => rw [padded_succ, padded_one, padded_one, Nat.zero_add, Nat.pow_one]
  | succ k ih =>
    have hdiv : n / 10 / 10 ^ (k + 1) = n / 10 ^ (k + 2) := by
      rw [Nat.div_div_eq_div_mul, ← Nat.pow_succ']
    have hmod : n % 10 ^ (k + 2) / 10 = n / 10 % 10 ^ (k + 1) := by
      rw [Nat.pow_succ', Nat.mod_mul_right_div_self]
    have hlast : n % 10 ^ (k + 2) % 10 = n % 10 := by
      rw [Nat.pow_succ', Nat.mod_mul_right_mod]
    rw [padded_succ, ih, padded_succ, hdiv, hmod, hlast, List.append_assoc]

/-! ## Where a number ends -/

def EndsNumber (rest : List Char) : Prop := ∀ c ∈ rest.head?, c.isDigit = false

theorem endsNumber_cons {c : Char} {rest : List Char} (h : c.isDigit = false) :
    EndsNumber (c :: rest) := by
  rintro _ ⟨⟩
  exact h

theorem takeWhile_digits {digits rest : List Char} (hdigits : ∀ c ∈ digits, c.isDigit)
    (hrest : EndsNumber rest) : (digits ++ rest).takeWhile Char.isDigit = digits := by
  rw [List.takeWhile_append_of_pos hdigits]
  cases rest with
  | nil => simp
  | cons c rest => simp [hrest c rfl]

theorem dropWhile_digits {digits rest : List Char} (hdigits : ∀ c ∈ digits, c.isDigit)
    (hrest : EndsNumber rest) : (digits ++ rest).dropWhile Char.isDigit = rest := by
  rw [List.dropWhile_append_of_pos hdigits]
  cases rest with
  | nil => rfl
  | cons c rest => simp [hrest c rfl]

end Numeral

end WorkerMemory
