import WorkerMemory.Time.Date
import WorkerMemory.Toml.Text

/-! # TOML: dates and times

They are kept as text in one spelling: `T` before the time, `Z` for universal time, at most nine
places after the point and no zeros at their end. -/

namespace WorkerMemory.Toml

open Text Text.Reader

def startsDate (cs : List Char) : Bool :=
  (cs.takeWhile Char.isDigit).length = 4 && (cs.drop 4).head? = some '-'

def startsTime (cs : List Char) : Bool :=
  (cs.takeWhile Char.isDigit).length = 2 && (cs.drop 2).head? = some ':'

def number? (cs : List Char) : Nat := (Numeral.natural? cs).getD 0

/-- Two digits of a value up to `last`. -/
def twoDigits (last : Nat) : Reader (List Char) := do
  let found ← takeExactly 2 Char.isDigit
  if number? found ≤ last then return found else failure

def date : Reader (List Char) := do
  let year ← takeExactly 4 Char.isDigit
  expect '-'
  let month ← twoDigits 12
  expect '-'
  let day ← twoDigits 31
  let date : Date := { year := number? year, month := number? month, day := number? day }
  if date.isValid then return year ++ '-' :: month ++ '-' :: day else failure

def subsecond : Reader (List Char) := do
  if ← accept ['.'] then
    let places := ((← takeSome Char.isDigit).take 9).reverse.dropWhile (· == '0')
    return if places.isEmpty then [] else '.' :: places.reverse
  else return []

/-- Second 60 is a leap second. -/
def time : Reader (List Char) := do
  let hour ← twoDigits 23
  expect ':'
  let minute ← twoDigits 59
  expect ':'
  let second ← twoDigits 60
  return hour ++ ':' :: minute ++ ':' :: second ++ (← subsecond)

def offset : Reader (List Char) := do
  if (← accept ['Z']) || (← accept ['z']) then return ['Z']
  else match ← peek with
    | some '+' => shift '+'
    | some '-' => shift '-'
    | _ => return []
where
  shift (sign : Char) : Reader (List Char) := do
    skip
    let hours ← twoDigits 23
    expect ':'
    let minutes ← twoDigits 59
    -- No shift is a shift eastward.
    let isZero := number? hours = 0 && number? minutes = 0
    return (if isZero then '+' else sign) :: hours ++ ':' :: minutes

def isDateEnd (c : Char) : Bool := c == 'T' || c == 't' || c == ' '

def dateAndTime : Reader (List Char) := do
  let date ← date
  match ← get with
  | c :: cs =>
    if isDateEnd c && startsTime cs then
      set cs
      let time ← time
      return date ++ 'T' :: time ++ (← offset)
    else return date
  | [] => return date

def moment : Reader String := do
  return String.ofList (← if startsDate (← get) then dateAndTime else time)

end WorkerMemory.Toml
