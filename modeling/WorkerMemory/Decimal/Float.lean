import WorkerMemory.Text.Blank
import WorkerMemory.Text.Numeral

/-! # Decimal notation of floats: reading -/

namespace WorkerMemory.Decimal

/-- The float nearest to `significand * 10 ^ exponent`. Numbers far beyond the range of floats need
no computing. -/
def nearestFloat (significand : Nat) (exponent : Int) : Float :=
  let magnitude : Int := (Numeral.ofNat significand).length + exponent
  if significand = 0 || magnitude < -400 then 0.0
  else if 400 < magnitude then 1.0 / 0.0
  else match exponent with
    | .ofNat n => Float.ofScientific significand false n
    | .negSucc n => Float.ofScientific significand true (n + 1)

/-- Digits before and after the point; there has to be one at all. -/
def significand? (cs : List Char) : Option (Nat × Nat × List Char) :=
  let whole := cs.takeWhile Char.isDigit
  let rest := cs.dropWhile Char.isDigit
  let (fraction, rest) := match rest with
    | '.' :: rest => (rest.takeWhile Char.isDigit, rest.dropWhile Char.isDigit)
    | rest => ([], rest)
  (Numeral.natural? (whole ++ fraction)).map fun n => (n, fraction.length, rest)

/-- An exponent up to the end of the text, or nothing at all. -/
def exponent? : List Char → Option Int
  | [] => some 0
  | c :: cs => if c = 'e' ∨ c = 'E' then Numeral.signed? cs else none

def unsignedFloat? (cs : List Char) : Option Float :=
  let word := String.ofList (Text.asciiLower cs)
  if word = "inf" ∨ word = "infinity" then some (1.0 / 0.0)
  else if word = "nan" then some (0.0 / 0.0)
  else match significand? cs with
    | none => none
    | some (n, places, rest) => (exponent? rest).map fun e => nearestFloat n (e - places)

/-- Reads decimal notation with or without a point and an exponent, infinity, and not-a-number. -/
def float? : List Char → Option Float
  | '-' :: cs => (unsignedFloat? cs).map (-·)
  | '+' :: cs => unsignedFloat? cs
  | cs => unsignedFloat? cs

end WorkerMemory.Decimal
