import WorkerMemory.Text.Numeral

/-! # Decimal notation of floats: the fewest digits that read back -/

namespace WorkerMemory.Decimal

/-- A positive float `significand * 2 ^ exponent` with the numbers that round to it. -/
structure Binary where
  significand : Nat
  exponent : Int
  /-- The next smaller float is only half as far away as the next larger one. -/
  isEdge : Bool

def Binary.ofBits (bits : Nat) : Binary :=
  let field : Nat := (bits >>> 52) % 0x800
  let fraction : Nat := bits % (1 <<< 52)
  if field = 0 then { significand := fraction, exponent := -1074, isEdge := false }
  else {
    significand := (1 <<< 52) + fraction
    exponent := (field : Int) - 1075
    isEdge := fraction = 0 ∧ 1 < field }

/-- Decimal digits `digits * 10 ^ exponent`. -/
structure Digits where
  digits : Nat
  exponent : Int
  deriving DecidableEq, Repr

namespace Binary

/-- A quarter of the distance to the next float, in units of `10 ^ place`, as a fraction. -/
def quarter (b : Binary) (place : Int) : Nat × Nat :=
  (Nat.pow 10 (-place).toNat <<< (b.exponent - 2).toNat,
    Nat.pow 10 place.toNat <<< (2 - b.exponent).toNat)

/-- Whether `n * 10 ^ place` rounds to the float; a number halfway does if the significand is
even. -/
def covers (b : Binary) (place : Int) (n : Nat) : Bool :=
  let (num, den) := b.quarter place
  let low := (4 * b.significand - if b.isEdge then 1 else 2) * num
  let high := (4 * b.significand + 2) * num
  if b.significand % 2 = 0 then low ≤ n * den && n * den ≤ high
  else low < n * den && n * den < high

/-- The two neighbours of the float on the grid of multiples of `10 ^ place`, the nearer first. The
upper one goes first if they are equally near. -/
def neighbours (b : Binary) (place : Int) : List Nat :=
  let (num, den) := b.quarter place
  let n := 4 * b.significand * num / den
  let remainder := 4 * b.significand * num % den
  if 2 * remainder < den then [n, n + 1] else [n + 1, n]

/-- The power of ten of the leading digit. -/
def leading (b : Binary) : Int :=
  match b.exponent with
  | .ofNat e => (Numeral.ofNat (b.significand <<< e)).length - 1
  | .negSucc e =>
    let den := 1 <<< (e + 1)
    if den ≤ b.significand then (Numeral.ofNat (b.significand / den)).length - 1
    else
      -- So many places are enough for the smallest float.
      let places := (List.range 330).find? (fun p => den ≤ b.significand * Nat.pow 10 p)
      Int.neg (places.getD 330)

/-- The nearest number of the coarsest grid that rounds to the float. -/
def shortest (b : Binary) : Digits :=
  let grids := (List.range 17).map fun (k : Nat) => b.leading - k
  let hits := grids.flatMap fun place =>
    ((b.neighbours place).filter (b.covers place)).map fun n => { digits := n, exponent := place }
  hits.headD { digits := b.significand, exponent := 0 }

end Binary

/-- Digits written without an exponent. -/
def Digits.positional (d : Digits) : List Char :=
  match d.exponent with
  | .ofNat e => Numeral.ofNat (d.digits * Nat.pow 10 e)
  | .negSucc e =>
    let places := e + 1
    let text := Numeral.padded (places + 1) d.digits
    let fraction := (text.drop (text.length - places)).reverse.dropWhile (· == '0')
    let whole := text.take (text.length - places)
    if fraction.isEmpty then whole else whole ++ '.' :: fraction.reverse

/-- Always positional, and without a point if there is nothing after it. -/
def ofFloat (x : Float) : String :=
  let bits := x.toBits.toNat
  let isNegative := 1 <<< 63 ≤ bits
  let magnitude := bits % (1 <<< 63)
  if magnitude > 0x7FF <<< 52 then "NaN"
  else
    let text :=
      if magnitude = 0x7FF <<< 52 then ['i', 'n', 'f']
      else if magnitude = 0 then ['0']
      else (Binary.ofBits magnitude).shortest.positional
    String.ofList (if isNegative then '-' :: text else text)

end WorkerMemory.Decimal
