import Mathlib.Tactic.IntervalCases
import WorkerMemory.Text.Utf8

/-! # Encoded texts are decoded again -/

namespace WorkerMemory.Utf8

def encode (cs : List Char) : List UInt8 := cs.flatMap String.utf8EncodeChar

/-! ## One character -/

theorem continuation_cons {k bits x : Nat} {low high : UInt8} {bytes : List UInt8} (hx : x < 64)
    (hlow : low.toNat ≤ x + 0x80) (hhigh : x + 0x80 ≤ high.toNat) :
    continuation (k + 1) bits low high (UInt8.ofNat (x + 0x80) :: bytes) =
      continuation k (bits * 64 + x) 0x80 0xBF bytes := by
  have hbyte : (UInt8.ofNat (x + 0x80)).toNat = x + 0x80 :=
    UInt8.toNat_ofNat_of_lt' (by simp [UInt8.size]; omega)
  have hin : low ≤ UInt8.ofNat (x + 0x80) ∧ UInt8.ofNat (x + 0x80) ≤ high := by
    rw [UInt8.le_iff_toNat_le, UInt8.le_iff_toNat_le, hbyte]
    exact ⟨hlow, hhigh⟩
  rw [continuation, if_pos hin, hbyte, Nat.add_sub_cancel]

theorem continuation_tail {k bits x : Nat} {bytes : List UInt8} (hx : x < 64) :
    continuation (k + 1) bits 0x80 0xBF (UInt8.ofNat (x + 0x80) :: bytes) =
      continuation k (bits * 64 + x) 0x80 0xBF bytes := by
  apply continuation_cons hx (Nat.le_add_left _ _)
  change x + 0x80 ≤ 0xBF
  omega

theorem lead?_two {x : Nat} (hlow : 2 ≤ x) (hhigh : x < 32) :
    lead? (UInt8.ofNat (x + 0xC0)) = some { following := 1, bits := x } := by
  interval_cases x <;> rfl

theorem lead?_three {x : Nat} (hx : x < 16) :
    lead? (UInt8.ofNat (x + 0xE0)) = some {
      following := 2
      bits := x
      low := if x = 0 then 0xA0 else 0x80
      high := if x = 0xD then 0x9F else 0xBF } := by
  interval_cases x <;> rfl

theorem lead?_four {x : Nat} (hx : x < 5) :
    lead? (UInt8.ofNat (x + 0xF0)) = some {
      following := 3
      bits := x
      low := if x = 0 then 0x90 else 0x80
      high := if x = 4 then 0x8F else 0xBF } := by
  interval_cases x <;> rfl

theorem decodeLossy_of_lead? {b : UInt8} {l : Lead} {n : Nat} {bytes rest : List UInt8}
    (hlead : lead? b = some l)
    (hcode : continuation l.following l.bits l.low l.high bytes = (some n, rest)) :
    decodeLossy (b :: bytes) = Char.ofNat n :: decodeLossy rest := by
  have hbeyond : ¬ b < 0x80 := by
    intro hascii
    have hlow : b < 0xC2 := UInt8.lt_of_lt_of_le hascii (by decide)
    rw [lead?, if_pos hlow] at hlead
    contradiction
  rw [decodeLossy, if_neg hbeyond, hlead]
  simp only [hcode, Option.elim_some]

theorem decodeLossy_one {n : Nat} (hn : n < 0x80) (rest : List UInt8) :
    decodeLossy (UInt8.ofNat n :: rest) = Char.ofNat n :: decodeLossy rest := by
  have hbyte : (UInt8.ofNat n).toNat = n := UInt8.toNat_ofNat_of_lt' (Nat.lt_trans hn (by decide))
  have hascii : UInt8.ofNat n < 0x80 := by
    rw [UInt8.lt_iff_toNat_lt, hbyte]
    exact hn
  rw [decodeLossy, if_pos hascii, hbyte]

theorem decodeLossy_two {n : Nat} (hlow : 0x80 ≤ n) (hhigh : n < 0x800) (rest : List UInt8) :
    decodeLossy (UInt8.ofNat (n / 64 % 32 + 0xC0) :: UInt8.ofNat (n % 64 + 0x80) :: rest) =
      Char.ofNat n :: decodeLossy rest := by
  apply decodeLossy_of_lead? (lead?_two (by omega) (by omega))
  have hcode : n / 64 % 32 * 64 + n % 64 = n := by omega
  rw [continuation_tail (Nat.mod_lt n (by decide)), continuation, hcode]

theorem decodeLossy_three {n : Nat} (hlow : 0x800 ≤ n)
    (hhigh : n < 0xD800 ∨ 0xDFFF < n ∧ n < 0x10000) (rest : List UInt8) :
    decodeLossy (UInt8.ofNat (n / 4096 % 16 + 0xE0) :: UInt8.ofNat (n / 64 % 64 + 0x80) ::
        UInt8.ofNat (n % 64 + 0x80) :: rest) =
      Char.ofNat n :: decodeLossy rest := by
  apply decodeLossy_of_lead? (lead?_three (by omega))
  have hcode : (n / 4096 % 16 * 64 + n / 64 % 64) * 64 + n % 64 = n := by omega
  rw [continuation_cons (Nat.mod_lt _ (by decide)), continuation_tail (Nat.mod_lt n (by decide)),
    continuation, hcode]
  · -- No overlong form.
    split
    · change 0xA0 ≤ n / 64 % 64 + 0x80
      omega
    · exact Nat.le_add_left _ _
  · -- No surrogate.
    dsimp only
    split
    · change n / 64 % 64 + 0x80 ≤ 0x9F
      omega
    · change n / 64 % 64 + 0x80 ≤ 0xBF
      omega

theorem decodeLossy_four {n : Nat} (hlow : 0x10000 ≤ n) (hhigh : n < 0x110000)
    (rest : List UInt8) :
    decodeLossy (UInt8.ofNat (n / 262144 % 8 + 0xF0) :: UInt8.ofNat (n / 4096 % 64 + 0x80) ::
        UInt8.ofNat (n / 64 % 64 + 0x80) :: UInt8.ofNat (n % 64 + 0x80) :: rest) =
      Char.ofNat n :: decodeLossy rest := by
  apply decodeLossy_of_lead? (lead?_four (by omega))
  have hcode : ((n / 262144 % 8 * 64 + n / 4096 % 64) * 64 + n / 64 % 64) * 64 + n % 64 = n := by
    omega
  rw [continuation_cons (Nat.mod_lt _ (by decide)), continuation_tail (Nat.mod_lt _ (by decide)),
    continuation_tail (Nat.mod_lt n (by decide)), continuation, hcode]
  · -- No overlong form.
    split
    · change 0x90 ≤ n / 4096 % 64 + 0x80
      omega
    · exact Nat.le_add_left _ _
  · -- Nothing past the last code point.
    dsimp only
    split
    · change n / 4096 % 64 + 0x80 ≤ 0x8F
      omega
    · change n / 4096 % 64 + 0x80 ≤ 0xBF
      omega

theorem decodeLossy_encodeChar (c : Char) (rest : List UInt8) :
    decodeLossy (String.utf8EncodeChar c ++ rest) = c :: decodeLossy rest := by
  have hchar : Char.ofNat c.val.toNat = c := Char.ofNat_toNat c
  have hvalid : c.val.toNat < 0xD800 ∨ 0xDFFF < c.val.toNat ∧ c.val.toNat < 0x110000 := c.valid
  unfold String.utf8EncodeChar
  generalize c.val.toNat = n at hchar hvalid ⊢
  subst hchar
  dsimp only
  split
  · next hone => exact decodeLossy_one (Nat.lt_succ_of_le hone) rest
  split
  · exact decodeLossy_two (by omega) (by omega) rest
  split
  · exact decodeLossy_three (by omega) (by omega) rest
  · exact decodeLossy_four (by omega) (by omega) rest

theorem decodeLossy_encode (cs : List Char) : decodeLossy (encode cs) = cs := by
  induction cs with
  | nil => rw [encode, List.flatMap_nil, decodeLossy]
  | cons c cs ih =>
    unfold encode at ih ⊢
    rw [List.flatMap_cons, decodeLossy_encodeChar, ih]

end WorkerMemory.Utf8
