import Mathlib.Data.List.DropRight
import WorkerMemory.Decimal.Shortest
import WorkerMemory.Proofs.Text.Numeral

/-! # How numbers are printed

A printed number has neither an exponent nor a plus sign, no zeros in front, and after a point no
zeros at the end.
-/

namespace WorkerMemory.Decimal

/-! ## Canonical notation -/

inductive Positional : List Char → Prop
  | whole (n : Nat) : Positional (Numeral.ofNat n)
  | pointed (n : Nat) {fraction : List Char} (digits : ∀ c ∈ fraction, c.isDigit) {last : Char}
    (ends : fraction.getLast? = some last) (hlast : last ≠ '0') :
    Positional (Numeral.ofNat n ++ '.' :: fraction)

inductive Canonical : List Char → Prop
  | notANumber : Canonical ['N', 'a', 'N']
  | infinity : Canonical ['i', 'n', 'f']
  | negativeInfinity : Canonical ['-', 'i', 'n', 'f']
  | positive {cs : List Char} (h : Positional cs) : Canonical cs
  | negative {cs : List Char} (h : Positional cs) : Canonical ('-' :: cs)

theorem canonical_ofInt (z : Int) : Canonical (Numeral.ofInt z) := by
  cases z with
  | ofNat n => exact .positive (.whole n)
  | negSucc n => exact .negative (.whole (n + 1))

/-! ## Digits without an exponent -/

theorem positional_negSucc (n e : Nat) :
    (Digits.mk n (.negSucc e)).positional =
      let whole := Numeral.ofNat (n / 10 ^ (e + 1))
      let fraction := (Numeral.padded (e + 1) (n % 10 ^ (e + 1))).rdropWhile (· == '0')
      if fraction.isEmpty then whole else whole ++ '.' :: fraction := by
  have hlength : (Numeral.padded (e + 1) (n % 10 ^ (e + 1))).length = e + 1 :=
    Numeral.length_padded (Nat.succ_pos e) (Nat.mod_lt _ (Nat.pow_pos (by decide)))
  have hwhole (whole : List Char) : (whole ++ Numeral.padded (e + 1) (n % 10 ^ (e + 1))).length -
      (e + 1) = whole.length := by
    rw [List.length_append, hlength, Nat.add_sub_cancel]
  simp only [Digits.positional, Numeral.padded_eq_append, hwhole, List.take_left, List.drop_left,
    List.rdropWhile, List.isEmpty_reverse]

theorem positional_positional (d : Digits) : Positional d.positional := by
  obtain ⟨n, exponent⟩ := d
  cases exponent with
  | ofNat e => exact .whole _
  | negSucc e =>
    rw [positional_negSucc]
    simp only
    split
    · exact .whole _
    · next hfraction =>
      rw [List.isEmpty_iff] at hfraction
      have hlast := List.rdropWhile_last_not _ _ hfraction
      refine .pointed _ ?_ (List.getLast?_eq_some_getLast hfraction) (by simpa using hlast)
      intro c hc
      exact Numeral.isDigit_of_mem_padded ((List.rdropWhile_prefix _ _).subset hc)

theorem canonical_ofFloat (x : Float) : Canonical (ofFloat x).toList := by
  unfold ofFloat
  simp only
  split
  · exact .notANumber
  · rw [String.toList_ofList]
    split
    · split
      · exact .negativeInfinity
      · split
        · exact .negative (.whole 0)
        · exact .negative (positional_positional _)
    · split
      · exact .infinity
      · split
        · exact .positive (.whole 0)
        · exact .positive (positional_positional _)

end WorkerMemory.Decimal
