/-! # JSON numbers -/

namespace WorkerMemory.Json

/-- An integer of 64 bits, with or without sign, stays exact; any other number is a float. -/
inductive Number where
  | int (value : Int)
  | real (value : Float)

namespace Number

def powerOfTen (exponent : Nat) : Float := Float.ofScientific 1 false exponent

/-- Scales in one step, or, for a very small number, after steps of 308 places. None if the number
is too large for a float. -/
def scale (significand : Float) (exponent : Int) : Option Float :=
  match exponent with
  | .ofNat places =>
    if places ≤ 308 then
      let x := significand * powerOfTen places
      if x.isInf then none else some x
    else if significand == 0.0 then some significand else none
  | .negSucc n =>
    let places := n + 1
    -- Three steps take every significand of 64 bits to zero.
    let steps := min 3 ((places - 1) / 308)
    let x := steps.repeat (· / powerOfTen 308) significand
    some (if places - 308 * steps ≤ 308 then x / powerOfTen (places - 308 * steps) else x)

/-- What has been read of a number: its leading digits as far as they fit into 64 bits, and the
power of ten they are to be scaled by. -/
structure Partial where
  significand : Nat := 0
  exponent : Int := 0
  /-- Set once a digit no longer fits; digits after it only count. -/
  isFull : Bool := false

def Partial.push (p : Partial) (digit : Nat) : Partial :=
  let next := 10 * p.significand + digit
  if p.isFull || UInt64.size ≤ next then { p with isFull := true, exponent := p.exponent + 1 }
  else { p with significand := next }

/-- A digit after the point. -/
def Partial.pushFraction (p : Partial) (digit : Nat) : Partial :=
  let pushed := p.push digit
  { pushed with exponent := pushed.exponent - 1 }

def Partial.toFloat (p : Partial) : Float := (UInt64.ofNat p.significand).toFloat

/-- An exponent that leaves 32 bits makes the number zero or too large. -/
def Partial.real (p : Partial) (isNegative : Bool) (exponentSign : Bool) (exponent : Nat) :
    Option Float :=
  let magnitude :=
    if Int32.maxValue.toInt < exponent then
      if !exponentSign && p.significand != 0 then none else some 0.0
    else scale p.toFloat (p.exponent + if exponentSign then -(exponent : Int) else exponent)
  magnitude.map fun x => if isNegative then -x else x

/-- Minus zero is a float, for it is no integer of its own. -/
def ofInteger (isNegative : Bool) (p : Partial) : Option Number :=
  if p.isFull then (p.real isNegative false 0).map real
  else if isNegative then
    if 0 < p.significand ∧ Int64.minValue.toInt ≤ -(p.significand : Int) then
      some (int (-(p.significand : Int)))
    else some (real (-p.toFloat))
  else some (int p.significand)

end Number

end WorkerMemory.Json
