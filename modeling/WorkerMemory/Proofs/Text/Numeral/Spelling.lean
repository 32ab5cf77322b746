import WorkerMemory.Proofs.Text.Numeral

/-! # How a number may be spelled

Digits with any number of zeros in front, and a sign where one is allowed. Readers of words with a
fixed width take exactly these texts, as long as the word holds the value.
-/

namespace WorkerMemory

/-! ## What a word holds -/

namespace Integer

theorem uint32?_eq_some_iff {n : Int} {k : UInt32} : uint32? n = some k ↔ n = k.toNat := by
  constructor
  · intro h
    obtain ⟨⟨hpos, hlt⟩, hk⟩ := Option.ite_none_right_eq_some.mp h
    obtain rfl := Option.some.inj hk
    have hsmall : n.toNat < UInt32.size := by omega
    rw [UInt32.toNat_ofNat_of_lt' hsmall, Int.toNat_of_nonneg hpos]
  · rintro rfl
    exact uint32?_toNat k

theorem uint64?_eq_some_iff {n : Int} {k : UInt64} : uint64? n = some k ↔ n = k.toNat := by
  constructor
  · intro h
    obtain ⟨⟨hpos, hlt⟩, hk⟩ := Option.ite_none_right_eq_some.mp h
    obtain rfl := Option.some.inj hk
    have hsmall : n.toNat < UInt64.size := by omega
    rw [UInt64.toNat_ofNat_of_lt' hsmall, Int.toNat_of_nonneg hpos]
  · rintro rfl
    exact uint64?_toNat k

theorem int64?_eq_some_iff {z : Int} {p : Int64} : int64? z = some p ↔ z = p.toInt := by
  constructor
  · intro h
    obtain ⟨⟨hlow, hhigh⟩, hp⟩ := Option.ite_none_right_eq_some.mp h
    obtain rfl := Option.some.inj hp
    exact (Int64.toInt_ofInt_of_le hlow (Int.lt_add_one_of_le hhigh)).symm
  · rintro rfl
    exact int64?_toInt p

theorem uint32?_eq_none_iff {n : Nat} : uint32? n = none ↔ UInt32.size ≤ n := by
  rw [uint32?, ite_eq_right_iff]
  simp only [reduceCtorEq, imp_false]
  omega

theorem uint64?_eq_none_iff {n : Nat} : uint64? n = none ↔ UInt64.size ≤ n := by
  rw [uint64?, ite_eq_right_iff]
  simp only [reduceCtorEq, imp_false]
  omega

theorem int64?_eq_none_iff {z : Int} :
    int64? z = none ↔ z < Int64.minValue.toInt ∨ Int64.maxValue.toInt < z := by
  rw [int64?, ite_eq_right_iff]
  simp only [reduceCtorEq, imp_false]
  omega

end Integer

namespace Numeral

/-! ## Spellings -/

/-- One digit or more. -/
structure Digits (cs : List Char) (n : Nat) : Prop where
  ne_nil : cs ≠ []
  isDigit : ∀ c ∈ cs, c.isDigit
  value : Nat.ofDigitChars 10 cs 0 = n

inductive Unsigned : List Char → Nat → Prop
  | plain {cs : List Char} {n : Nat} (h : Digits cs n) : Unsigned cs n
  | plus {cs : List Char} {n : Nat} (h : Digits cs n) : Unsigned ('+' :: cs) n

inductive Signed : List Char → Int → Prop
  | unsigned {cs : List Char} {n : Nat} (h : Unsigned cs n) : Signed cs n
  | minus {cs : List Char} {n : Nat} (h : Digits cs n) : Signed ('-' :: cs) (-n)

theorem Digits.not_cons {c : Char} {cs : List Char} {n : Nat} (hc : c.isDigit = false) :
    ¬ Digits (c :: cs) n := by
  intro h
  rw [h.isDigit c List.mem_cons_self] at hc
  contradiction

theorem not_unsigned_minus {cs : List Char} {n : Nat} : ¬ Unsigned ('-' :: cs) n := by
  rintro ⟨h⟩
  exact Digits.not_cons rfl h

/-! ## Readers of any number -/

theorem natural?_eq_some_iff {cs : List Char} {n : Nat} : natural? cs = some n ↔ Digits cs n := by
  constructor
  · intro h
    have hne : cs ≠ [] := by
      rintro rfl
      contradiction
    have hdigits := isDigit_of_natural? h
    rw [natural?_of_digits hdigits hne] at h
    exact ⟨hne, hdigits, Option.some.inj h⟩
  · rintro ⟨hne, hdigits, rfl⟩
    exact natural?_of_digits hdigits hne

theorem unsigned?_eq_some_iff {cs : List Char} {n : Nat} :
    unsigned? cs = some n ↔ Unsigned cs n := by
  fun_cases unsigned? cs with
  | case1 cs =>
    rw [natural?_eq_some_iff]
    constructor
    · exact .plus
    · rintro (h | h)
      · exact absurd h (Digits.not_cons rfl)
      · exact h
  | case2 cs unmarked =>
    rw [natural?_eq_some_iff]
    constructor
    · exact .plain
    · rintro (h | h)
      · exact h
      · exact absurd rfl (unmarked _)

theorem signed?_of_unsigned {cs : List Char} {n : Nat} (h : Unsigned cs n) :
    signed? cs = some (n : Int) := by
  fun_cases signed? cs with
  | case1 cs => exact absurd h not_unsigned_minus
  | case2 => rw [unsigned?_eq_some_iff.mpr h]; rfl

theorem signed?_minus {cs : List Char} {n : Nat} (h : Digits cs n) :
    signed? ('-' :: cs) = some (-n : Int) := by
  rw [signed?, natural?_eq_some_iff.mpr h]
  rfl

theorem signed?_eq_some_iff {cs : List Char} {z : Int} : signed? cs = some z ↔ Signed cs z := by
  constructor
  · fun_cases signed? cs with
    | case1 cs =>
      intro h
      obtain ⟨_, hvalue, rfl⟩ := Option.map_eq_some_iff.mp h
      obtain ⟨n, hn, hcast⟩ := Option.bind_eq_some_iff.mp hvalue
      obtain rfl := Option.some.inj hcast
      exact .minus (natural?_eq_some_iff.mp hn)
    | case2 =>
      intro h
      obtain ⟨n, hn, rfl⟩ := Option.map_eq_some_iff.mp h
      exact .unsigned (unsigned?_eq_some_iff.mp hn)
  · rintro (h | h)
    · exact signed?_of_unsigned h
    · exact signed?_minus h

theorem unsigned_ofNat (n : Nat) : Unsigned (ofNat n) n :=
  .plain (natural?_eq_some_iff.mp (natural?_ofNat n))

theorem signed_ofInt (z : Int) : Signed (ofInt z) z := signed?_eq_some_iff.mp (signed?_ofInt z)

theorem notMem_of_signed {c : Char} (hdigit : c.isDigit = false) (hplus : c ≠ '+')
    (hminus : c ≠ '-') {cs : List Char} {z : Int} (h : Signed cs z) : c ∉ cs := by
  intro hc
  rcases mem_of_signed? (signed?_eq_some_iff.mpr h) c hc with h | h | h
  · rw [h] at hdigit
    contradiction
  · exact hplus h
  · exact hminus h

theorem Unsigned.ne_nil {cs : List Char} {n : Nat} (h : Unsigned cs n) : cs ≠ [] := by
  cases h with
  | plain h => exact h.ne_nil
  | plus => exact List.cons_ne_nil _ _

/-! ## Readers of words -/

theorem uint32?_eq_some_iff {cs : List Char} {k : UInt32} :
    uint32? cs = some k ↔ Unsigned cs k.toNat := by
  rw [uint32?, Option.bind_eq_some_iff]
  simp only [unsigned?_eq_some_iff, Integer.uint32?_eq_some_iff, Int.natCast_inj, exists_eq_right]

theorem uint64?_eq_some_iff {cs : List Char} {k : UInt64} :
    uint64? cs = some k ↔ Unsigned cs k.toNat := by
  rw [uint64?, Option.bind_eq_some_iff]
  simp only [unsigned?_eq_some_iff, Integer.uint64?_eq_some_iff, Int.natCast_inj, exists_eq_right]

theorem int64?_eq_some_iff {cs : List Char} {p : Int64} :
    int64? cs = some p ↔ Signed cs p.toInt := by
  rw [int64?, Option.bind_eq_some_iff]
  simp only [signed?_eq_some_iff, Integer.int64?_eq_some_iff, exists_eq_right]

theorem uint32?_eq_none_iff {cs : List Char} :
    uint32? cs = none ↔ ∀ n, Unsigned cs n → UInt32.size ≤ n := by
  rw [uint32?, Option.bind_eq_none_iff]
  simp only [unsigned?_eq_some_iff, Integer.uint32?_eq_none_iff]

theorem uint64?_eq_none_iff {cs : List Char} :
    uint64? cs = none ↔ ∀ n, Unsigned cs n → UInt64.size ≤ n := by
  rw [uint64?, Option.bind_eq_none_iff]
  simp only [unsigned?_eq_some_iff, Integer.uint64?_eq_none_iff]

theorem int64?_eq_none_iff {cs : List Char} :
    int64? cs = none ↔
      ∀ z, Signed cs z → z < Int64.minValue.toInt ∨ Int64.maxValue.toInt < z := by
  rw [int64?, Option.bind_eq_none_iff]
  simp only [signed?_eq_some_iff, Integer.int64?_eq_none_iff]

end Numeral

end WorkerMemory
