import WorkerMemory.Settings.Loose
import WorkerMemory.Toml.Text

/-! # TOML: numbers -/

namespace WorkerMemory.Toml

open Text Text.Reader

def sign : Reader (List Char) := do
  if ← accept ['-'] then return ['-']
  else if ← accept ['+'] then return ['+']
  else return []

/-- Each underscore stands between two digits. -/
def isGrouped : List Char → Bool
  | [] => false
  | [c] => c != '_'
  | c :: d :: cs => c != '_' && (if d = '_' then isGrouped cs else isGrouped (d :: cs))

/-- Digits, the underscores between them left out. -/
def digits (isDigit : Char → Bool) : Reader (List Char) := do
  let found ← takeWhile fun c => isDigit c || c == '_'
  if isGrouped found then return found.filter (· != '_') else failure

/-- A leading zero stands alone. -/
def wholeDigits : Reader (List Char) := do
  match ← digits Char.isDigit with
  | '0' :: _ :: _ => failure
  | found => return found

def fraction : Reader (List Char) := do
  if ← accept ['.'] then return '.' :: (← digits Char.isDigit) else return []

def exponent : Reader (List Char) := do
  if (← accept ['e']) || (← accept ['E']) then
    let sign ← sign
    return 'e' :: sign ++ (← digits Char.isDigit)
  else return []

/-- Only a number below all floats may leave their range. -/
def real (cs : List Char) : Reader Loose := do
  match Decimal.float? cs with
  | some x => if x.isInf && 0 < x then failure else return .float x
  | none => failure

def decimal (sign : List Char) : Reader Loose := do
  let whole ← wholeDigits
  let fraction ← fraction
  let exponent ← exponent
  if fraction.isEmpty && exponent.isEmpty then
    match Numeral.int64? (sign ++ whole) with
    | some n => return .int n
    | none => failure
  else real (sign ++ whole ++ fraction ++ exponent)

/-- A number in another base, its mark already taken. -/
def inBase (base : Nat) : Reader Loose := do
  let found ← digits fun c => (Numeral.digitIn? base c).isSome
  match (Numeral.naturalIn? base found).bind fun n => Integer.int64? n with
  | some n => return .int n
  | none => failure

def number : Reader Loose := do
  if ← accept ['0', 'x'] then inBase 16
  else if ← accept ['0', 'o'] then inBase 8
  else if ← accept ['0', 'b'] then inBase 2
  else
    let sign ← sign
    if ← accept ['i', 'n', 'f'] then
      return .float (if sign = ['-'] then -1.0 / 0.0 else 1.0 / 0.0)
    else if ← accept ['n', 'a', 'n'] then return .float (0.0 / 0.0)
    else decimal sign

end WorkerMemory.Toml
