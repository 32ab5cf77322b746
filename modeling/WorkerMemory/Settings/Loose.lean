import WorkerMemory.Decimal.Float
import WorkerMemory.Decimal.Shortest
import WorkerMemory.Settings.Error
import WorkerMemory.Text.Blank

/-! # Loosely typed values

Settings come from sources that know other types than the settings do. A value is converted to the
type of its setting where that makes sense. -/

namespace WorkerMemory

open Text

inductive Loose where
  | null
  | bool (value : Bool)
  | int (value : Int64)
  | float (value : Float)
  | text (value : String)
  | list (elements : List Loose)
  | table (entries : List (String × Loose))

namespace Loose

/-! ## Guessing a type -/

/-- A text that reads as a truth value or a number becomes one. -/
def guess (s : String) : Loose :=
  let word := String.ofList (lower s.toList)
  if word = "true" then bool true
  else if word = "false" then bool false
  else match Numeral.int64? s.toList with
    | some n => int n
    | none => match Decimal.float? s.toList with
      | some x => float x
      | none => text s

/-! ## Converting -/

def found : Loose → String
  | null => "unit value"
  | bool b => "boolean \x60" ++ toString b ++ "\x60"
  | int n => "64-bit integer \x60" ++ toString n.toInt ++ "\x60"
  | float x => "floating point \x60" ++ Decimal.ofFloat x ++ "\x60"
  | text s => "string " ++ quote s
  | list _ => "sequence"
  | table _ => "map"

/-- What a value cannot be taken for. -/
structure Misfit where
  found : String
  expected : String
  deriving DecidableEq, Repr

def toText : Loose → Except Misfit String
  | text s => .ok s
  | bool b => .ok (toString b)
  | int n => .ok (toString n.toInt)
  | float x => .ok (Decimal.ofFloat x)
  | v => .error { found := v.found, expected := "a string" }

def toOptionalText : Loose → Except Misfit (Option String)
  | null => .ok none
  | v => some <$> v.toText

/-- Words that stand for a truth value count as 1 and 0. -/
def countOfWord (s : String) : Option UInt64 :=
  let word := String.ofList (lower s.toList)
  if word = "true" ∨ word = "on" ∨ word = "yes" then some 1
  else if word = "false" ∨ word = "off" ∨ word = "no" then some 0
  else Numeral.uint64? s.toList

/-- A float is rounded, a half away from zero; below zero it counts as 0, and above the largest
count as that. -/
def toCount : Loose → Except Misfit UInt64
  | int n =>
    if n < 0 then
      .error { found := (int n).found, expected := "an unsigned 64 bit or less integer" }
    else .ok n.toUInt64
  | bool b => .ok (if b then 1 else 0)
  | float x => .ok x.round.toUInt64
  | text s => match countOfWord s with
    | some n => .ok n
    | none => .error { found := (text s).found, expected := "an integer" }
  | v => .error { found := v.found, expected := "an integer" }

end Loose

end WorkerMemory
