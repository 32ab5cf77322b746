/-! # Decoding UTF-8 that may be damaged -/

namespace WorkerMemory.Utf8

def replacement : Char := '\ufffd'

/-- What a leading byte announces: the number of bytes that follow, its own share of the code
point, and the range of the first byte after it. -/
structure Lead where
  following : Nat
  bits : Nat
  low : UInt8 := 0x80
  high : UInt8 := 0xBF

/-- The ranges leave out overlong forms, surrogates and values past the last code point. -/
def lead? (b : UInt8) : Option Lead :=
  if b < 0xC2 then none
  else if b < 0xE0 then some { following := 1, bits := b.toNat - 0xC0 }
  else if b == 0xE0 then some { following := 2, bits := 0, low := 0xA0 }
  else if b == 0xED then some { following := 2, bits := 0xD, high := 0x9F }
  else if b < 0xF0 then some { following := 2, bits := b.toNat - 0xE0 }
  else if b == 0xF0 then some { following := 3, bits := 0, low := 0x90 }
  else if b < 0xF4 then some { following := 3, bits := b.toNat - 0xF0 }
  else if b == 0xF4 then some { following := 3, bits := 4, high := 0x8F }
  else none

/-- The code point, or none if it breaks off, and the bytes not used by it. -/
def continuation : (following bits : Nat) → (low high : UInt8) → List UInt8 →
    Option Nat × List UInt8
  | 0, bits, _, _, bytes => (some bits, bytes)
  | _ + 1, _, _, _, [] => (none, [])
  | k + 1, bits, low, high, b :: bytes =>
    if low ≤ b ∧ b ≤ high then
      continuation k (bits * 64 + (b.toNat - 0x80)) 0x80 0xBF bytes
    else (none, b :: bytes)

theorem length_continuation (k bits : Nat) (low high : UInt8) (bytes : List UInt8) :
    (continuation k bits low high bytes).2.length ≤ bytes.length := by
  induction k generalizing bits low high bytes with
  | zero => simp [continuation]
  | succ k ih =>
    cases bytes with
    | nil => simp [continuation]
    | cons b bytes =>
      rw [continuation]
      split
      · exact Nat.le_succ_of_le (ih ..)
      · simp

/-- Every longest run of bytes that starts a character and breaks off, and every byte that starts
none, becomes one replacement character. -/
def decodeLossy : List UInt8 → List Char
  | [] => []
  | b :: bytes =>
    if b < 0x80 then Char.ofNat b.toNat :: decodeLossy bytes
    else match lead? b with
      | none => replacement :: decodeLossy bytes
      | some l =>
        let decoded := continuation l.following l.bits l.low l.high bytes
        (decoded.1.elim replacement Char.ofNat) :: decodeLossy decoded.2
termination_by bytes => bytes.length
decreasing_by
  · simp
  · simp
  · exact Nat.lt_succ_of_le (length_continuation ..)

end WorkerMemory.Utf8
