import WorkerMemory.Decimal.Float
import WorkerMemory.Proofs.Text.Numeral.Spelling

/-! # How a float may be spelled

Digits, a point before, among or after them, an exponent behind them and a sign in front. Infinity
and not-a-number have words, in letters of either case. These are the texts that are read.
-/

namespace WorkerMemory.Decimal

open Text

/-! ## The notation -/

/-- Digits with the value `n`, the last `places` of them after a point. -/
inductive Significand : List Char → (n places : Nat) → Prop
  | whole {cs : List Char} {n : Nat} (h : Numeral.Digits cs n) : Significand cs n 0
  | pointed {whole fraction : List Char} {n : Nat} (h : Numeral.Digits (whole ++ fraction) n) :
    Significand (whole ++ '.' :: fraction) n fraction.length

inductive Exponent : List Char → Int → Prop
  | none : Exponent [] 0
  | marked {mark : Char} {cs : List Char} {e : Int} (hmark : mark = 'e' ∨ mark = 'E')
    (h : Numeral.Signed cs e) : Exponent (mark :: cs) e

inductive Unsigned : List Char → Float → Prop
  | infinity {cs : List Char} (h : String.ofList (asciiLower cs) = "inf" ∨
    String.ofList (asciiLower cs) = "infinity") : Unsigned cs (1.0 / 0.0)
  | notANumber {cs : List Char} (h : String.ofList (asciiLower cs) = "nan") :
    Unsigned cs (0.0 / 0.0)
  | number {digits exponent : List Char} {n places : Nat} {e : Int}
    (hdigits : Significand digits n places) (hexponent : Exponent exponent e) :
    Unsigned (digits ++ exponent) (nearestFloat n (e - places))

inductive Spells : List Char → Float → Prop
  | unsigned {cs : List Char} {x : Float} (h : Unsigned cs x) : Spells cs x
  | plus {cs : List Char} {x : Float} (h : Unsigned cs x) : Spells ('+' :: cs) x
  | minus {cs : List Char} {x : Float} (h : Unsigned cs x) : Spells ('-' :: cs) (-x)

/-! ## Digits and exponents -/

theorem exponent?_eq_some_iff {cs : List Char} {e : Int} :
    exponent? cs = some e ↔ Exponent cs e := by
  cases cs with
  | nil =>
    constructor
    · rintro ⟨⟩
      exact .none
    · rintro ⟨⟩
      rfl
  | cons mark cs =>
    unfold exponent?
    rw [Option.ite_none_right_eq_some, Numeral.signed?_eq_some_iff]
    constructor
    · rintro ⟨hmark, h⟩
      exact .marked hmark h
    · rintro (_ | ⟨hmark, h⟩)
      exact ⟨hmark, h⟩

/-- What comes after the digits is no part of them. -/
def EndsDigits (rest : List Char) : Prop := Numeral.EndsNumber rest ∧ rest.head? ≠ some '.'

theorem Exponent.endsDigits {cs : List Char} {e : Int} (h : Exponent cs e) : EndsDigits cs := by
  cases h with
  | none => exact ⟨by rintro _ ⟨⟩, by simp⟩
  | marked hmark _ =>
    rcases hmark with rfl | rfl
    · exact ⟨Numeral.endsNumber_cons rfl, by simp⟩
    · exact ⟨Numeral.endsNumber_cons rfl, by simp⟩

theorem significand?_append {digits rest : List Char} {n places : Nat}
    (h : Significand digits n places) (ends : EndsDigits rest) :
    significand? (digits ++ rest) = some (n, places, rest) := by
  unfold significand?
  cases h with
  | whole h =>
    rw [Numeral.takeWhile_digits h.isDigit ends.1, Numeral.dropWhile_digits h.isDigit ends.1]
    have hrest : ∀ more, rest ≠ '.' :: more := by
      rintro more rfl
      exact ends.2 rfl
    simp [Numeral.natural?_eq_some_iff.mpr h]
  | @pointed whole fraction _ h =>
    have hboth := List.forall_mem_append.mp h.isDigit
    have hpoint : Numeral.EndsNumber ('.' :: (fraction ++ rest)) := Numeral.endsNumber_cons rfl
    rw [List.append_assoc, List.cons_append, Numeral.takeWhile_digits hboth.1 hpoint,
      Numeral.dropWhile_digits hboth.1 hpoint]
    simp only [Numeral.takeWhile_digits hboth.2 ends.1, Numeral.dropWhile_digits hboth.2 ends.1,
      Numeral.natural?_eq_some_iff.mpr h, Option.map_some]

theorem exists_significand {cs rest : List Char} {n places : Nat}
    (h : significand? cs = some (n, places, rest)) :
    ∃ digits, cs = digits ++ rest ∧ Significand digits n places := by
  unfold significand? at h
  have hsplit : cs.takeWhile Char.isDigit ++ cs.dropWhile Char.isDigit = cs :=
    List.takeWhile_append_dropWhile
  simp only at h
  split at h
  · next after hpoint =>
    obtain ⟨_, hn, ⟨⟩⟩ := Option.map_eq_some_iff.mp h
    refine ⟨_, ?_, .pointed (Numeral.natural?_eq_some_iff.mp hn)⟩
    rw [List.append_assoc, List.cons_append, List.takeWhile_append_dropWhile, ← hpoint, hsplit]
  · obtain ⟨_, hn, ⟨⟩⟩ := Option.map_eq_some_iff.mp h
    rw [List.append_nil] at hn
    exact ⟨_, hsplit.symm, .whole (Numeral.natural?_eq_some_iff.mp hn)⟩

/-! ## Words -/

theorem Significand.exists_cons {digits : List Char} {n places : Nat}
    (h : Significand digits n places) :
    ∃ c cs, digits = c :: cs ∧ (c.isDigit ∨ c = '.') := by
  cases h with
  | whole h =>
    obtain ⟨c, cs, rfl⟩ := List.exists_cons_of_ne_nil h.ne_nil
    exact ⟨c, cs, rfl, .inl (h.isDigit c List.mem_cons_self)⟩
  | @pointed whole fraction _ h =>
    cases whole with
    | nil => exact ⟨'.', fraction, rfl, .inr rfl⟩
    | cons c whole => exact ⟨c, _, rfl, .inl (h.isDigit c List.mem_cons_self)⟩

theorem toLower_of_digit {c : Char} (h : c.isDigit ∨ c = '.') : c.toLower = c := by
  unfold Char.toLower
  split
  · next hupper =>
    rcases h with h | rfl
    · have hdigit := (Bool.and_eq_true_iff.mp h).2
      have hle : c.val ≤ 57 := of_decide_eq_true hdigit
      have hge : 65 ≤ c.val := hupper.1
      exact absurd (UInt32.le_trans hge hle) (by decide)
    · exact absurd hupper (by decide)
  · rfl

theorem head?_of_word {cs : List Char} {word : String} (h : String.ofList (asciiLower cs) = word) :
    cs.head?.map Char.toLower = word.toList.head? := by
  rw [← h, String.toList_ofList, asciiLower, List.head?_map]

theorem Significand.ne_word {digits : List Char} {n places : Nat} (h : Significand digits n places)
    (rest : List Char) {first : Char} {word : String} (hword : word.toList.head? = some first)
    (hfirst : (first.isDigit || first == '.') = false) :
    String.ofList (asciiLower (digits ++ rest)) ≠ word := by
  obtain ⟨c, cs, rfl, hc⟩ := h.exists_cons
  intro h
  have hhead := head?_of_word h
  rw [hword, List.cons_append, List.head?_cons, Option.map_some, toLower_of_digit hc,
    Option.some_inj] at hhead
  subst hhead
  simp_all

theorem unsignedFloat?_eq_some_iff {cs : List Char} {x : Float} :
    unsignedFloat? cs = some x ↔ Unsigned cs x := by
  constructor
  · intro h
    unfold unsignedFloat? at h
    simp only at h
    split at h
    · next hword =>
      cases h
      exact .infinity hword
    · split at h
      · next hword =>
        cases h
        exact .notANumber hword
      · split at h
        · contradiction
        · next n places rest hread =>
          obtain ⟨e, hexponent, rfl⟩ := Option.map_eq_some_iff.mp h
          obtain ⟨digits, rfl, hdigits⟩ := exists_significand hread
          exact .number hdigits (exponent?_eq_some_iff.mp hexponent)
  · rintro (h | h | @⟨digits, exponent, _, _, _, hdigits, hexponent⟩)
    · rw [unsignedFloat?, if_pos h]
    · simp [unsignedFloat?, h]
    · -- Words are looked for first, and they begin with letters.
      have hinf : String.ofList (asciiLower (digits ++ exponent)) ≠ "inf" :=
        hdigits.ne_word exponent rfl rfl
      have hinfinity : String.ofList (asciiLower (digits ++ exponent)) ≠ "infinity" :=
        hdigits.ne_word exponent rfl rfl
      have hnan : String.ofList (asciiLower (digits ++ exponent)) ≠ "nan" :=
        hdigits.ne_word exponent rfl rfl
      simp only [unsignedFloat?, hinf, hinfinity, hnan, or_self, if_false,
        significand?_append hdigits hexponent.endsDigits, exponent?_eq_some_iff.mpr hexponent,
        Option.map_some]

/-! ## Signs -/

theorem Unsigned.ne_sign {cs : List Char} {x : Float} (h : Unsigned cs x) :
    cs.head? ≠ some '+' ∧ cs.head? ≠ some '-' := by
  have hword {word : String} (h : String.ofList (asciiLower cs) = word)
      (hfirst : word.toList.head? ≠ some '+' ∧ word.toList.head? ≠ some '-') :
      cs.head? ≠ some '+' ∧ cs.head? ≠ some '-' := by
    rw [← head?_of_word h] at hfirst
    constructor
    · intro hplus
      exact hfirst.1 (by rw [hplus]; rfl)
    · intro hminus
      exact hfirst.2 (by rw [hminus]; rfl)
  cases h with
  | infinity h =>
    rcases h with h | h
    · exact hword h (by decide)
    · exact hword h (by decide)
  | notANumber h => exact hword h (by decide)
  | number hdigits _ =>
    obtain ⟨c, cs, rfl, hc⟩ := hdigits.exists_cons
    rcases hc with hc | rfl
    · constructor
      · rintro ⟨⟩
        contradiction
      · rintro ⟨⟩
        contradiction
    · simp

theorem float?_eq_some_iff {cs : List Char} {x : Float} : float? cs = some x ↔ Spells cs x := by
  fun_cases float? cs with
  | case1 cs =>
    rw [Option.map_eq_some_iff]
    constructor
    · rintro ⟨y, hy, rfl⟩
      exact .minus (unsignedFloat?_eq_some_iff.mp hy)
    · rintro (h | h | h)
      · exact absurd rfl h.ne_sign.2
      · exact ⟨_, unsignedFloat?_eq_some_iff.mpr h, rfl⟩
  | case2 cs =>
    rw [unsignedFloat?_eq_some_iff]
    constructor
    · exact .plus
    · rintro (h | h)
      · exact absurd rfl h.ne_sign.1
      · exact h
  | case3 cs noMinus noPlus =>
    rw [unsignedFloat?_eq_some_iff]
    constructor
    · exact .unsigned
    · rintro (h | h | h)
      · exact h
      · exact absurd rfl (noPlus _)
      · exact absurd rfl (noMinus _)

/-! ## What is no number -/

theorem Unsigned.ne_word {cs : List Char} {x : Float} (h : Unsigned cs x) {first : Char}
    {word : String} (hword : word.toList.head? = some first)
    (hfirst : (first.isDigit || first == '.') = false)
    (hnames : word ≠ "inf" ∧ word ≠ "infinity" ∧ word ≠ "nan") :
    String.ofList (asciiLower cs) ≠ word := by
  obtain ⟨hinf, hinfinity, hnan⟩ := hnames
  rintro rfl
  cases h with
  | infinity h => exact h.elim hinf hinfinity
  | notANumber h => exact hnan h
  | number hdigits _ => exact hdigits.ne_word _ hword hfirst rfl

theorem Spells.ne_word {cs : List Char} {x : Float} (h : Spells cs x) {first : Char}
    {word : String} (hword : word.toList.head? = some first)
    (hfirst : (first.isDigit || first == '.') = false) (hplus : first ≠ '+') (hminus : first ≠ '-')
    (hnames : word ≠ "inf" ∧ word ≠ "infinity" ∧ word ≠ "nan") :
    String.ofList (asciiLower cs) ≠ word := by
  have hsign {sign : Char} {cs : List Char} (hsign : sign.toLower ≠ first) :
      String.ofList (asciiLower (sign :: cs)) ≠ word := by
    intro h
    have hhead := head?_of_word h
    rw [hword] at hhead
    exact hsign (Option.some.inj hhead)
  cases h with
  | unsigned h => exact h.ne_word hword hfirst hnames
  | plus => exact hsign hplus.symm
  | minus => exact hsign hminus.symm

theorem exists_spells_of_signed {cs : List Char} {z : Int} (h : Numeral.Signed cs z) :
    ∃ x, Spells cs x := by
  have hdigits {cs : List Char} {n : Nat} (h : Numeral.Digits cs n) : ∃ x, Unsigned cs x := by
    have hnumber := Unsigned.number (.whole h) .none
    rw [List.append_nil] at hnumber
    exact ⟨_, hnumber⟩
  rcases h with (h | h) | h
  · exact (hdigits h).imp fun _ => .unsigned
  · exact (hdigits h).imp fun _ => .plus
  · obtain ⟨x, hx⟩ := hdigits h
    exact ⟨-x, .minus hx⟩

end WorkerMemory.Decimal
