import WorkerMemory.Text.Blank
import WorkerMemory.Text.Numeral
import WorkerMemory.Text.Reader
import WorkerMemory.Time.Instant

/-! # Times written as in RFC 3339 -/

namespace WorkerMemory.Rfc3339

open Text Text.Reader

/-! ## Printing -/

/-- Years outside four digits carry a sign. -/
def year (n : Int) : List Char :=
  if 0 ≤ n ∧ n ≤ 9999 then Numeral.padded 4 n.toNat
  else (if n < 0 then '-' else '+') :: Numeral.padded 4 n.natAbs

def date (d : Date) : List Char :=
  year d.year ++ '-' :: Numeral.padded 2 d.month ++ '-' :: Numeral.padded 2 d.day

def timeOfDay (t : Instant) : List Char :=
  Numeral.padded 2 t.hour ++ ':' :: Numeral.padded 2 t.minute ++ ':' :: Numeral.padded 2 t.second

/-- None, three, six or nine digits: the fewest that say everything. -/
def fraction (nanos : Nat) : List Char :=
  if nanos = 0 then []
  else if nanos % 1000000 = 0 then '.' :: Numeral.padded 3 (nanos / 1000000)
  else if nanos % 1000 = 0 then '.' :: Numeral.padded 6 (nanos / 1000)
  else '.' :: Numeral.padded 9 nanos

def print (t : Instant) : List Char :=
  date t.date ++ 'T' :: timeOfDay t ++ fraction t.subsecond ++ ['Z']

/-! ## Reading -/

def skipBlanks : Reader Unit := modify trimLeft

/-- At least one digit and at most `width`. -/
def digits (width : Nat) : Reader (List Char) := do
  let cs ← get
  let found := (cs.take width).takeWhile Char.isDigit
  if found.isEmpty then failure
  set (cs.drop found.length)
  return found

def value (found : List Char) : Nat := (Numeral.natural? found).getD 0

def field (width first last : Nat) : Reader Nat := do
  skipBlanks
  let n := value (← digits width)
  if first ≤ n ∧ n ≤ last then return n else failure

/-- With a sign a year may have any number of digits. -/
def signedYear : Reader Int := do
  skipBlanks
  match ← get with
  | '-' :: rest =>
    set rest
    return -(value (← digits rest.length) : Int)
  | '+' :: rest =>
    set rest
    return (value (← digits rest.length) : Int)
  | _ => return (value (← digits 4) : Int)

/-- Nanoseconds; digits from the tenth on are dropped. -/
def nanoseconds : Reader Nat := do
  match ← get with
  | '.' :: rest =>
    set rest
    let found ← digits 9
    modify (List.dropWhile Char.isDigit)
    return value (found.rightpad 9 '0')
  | _ => return 0

def isSeparator (c : Char) : Bool := c = 'T' || c = 't' || c = ' '

def separator : Reader Unit := do
  match ← get with
  | c :: rest => if isSeparator c then set rest else failure
  | [] => failure

def utc (cs : List Char) : Bool := asciiLower (cs.take 3) = ['u', 't', 'c']

/-- The sign of an offset; true for the way east. -/
def eastward : Reader Bool := do
  match ← get with
  | '+' :: rest => set rest *> return true
  | '-' :: rest | '\u2212' :: rest => set rest *> return false
  | _ => failure

def twoDigits (last : Nat) : Reader Nat := do
  match ← get with
  | a :: b :: rest =>
    match Numeral.natural? [a, b] with
    | some n => if n ≤ last then set rest *> return n else failure
    | none => failure
  | _ => failure

/-- Seconds east of universal time; less than a day. -/
def offset : Reader Int := do
  let cs ← get
  if utc cs then
    set (cs.drop 3)
    return 0
  match cs with
  | 'Z' :: rest | 'z' :: rest =>
    set rest
    return 0
  | _ =>
    let east ← eastward
    let hours ← twoDigits 23
    modify (List.dropWhile fun c => c == ':' || isBlank c)
    let minutes ← twoDigits 59
    let seconds : Int := hours * 3600 + minutes * 60
    return if east then seconds else -seconds

def yearRange (n : Int) : Bool := -262143 ≤ n && n ≤ 262142

/-- Blanks may stand between the parts, and second 60 is a leap second. -/
def instant : Reader Instant := do
  let year ← signedYear
  skipBlanks
  expect '-'
  let month ← field 2 1 12
  skipBlanks
  expect '-'
  let day ← field 2 1 31
  separator
  let hour ← field 2 0 23
  skipBlanks
  expect ':'
  let minute ← field 2 0 59
  skipBlanks
  expect ':'
  let second ← field 2 0 60
  let nanos ← nanoseconds
  skipBlanks
  let east ← offset
  let date : Date := { year, month, day }
  if !yearRange year || !date.isValid then failure
  let (second, nanos) := if second = 60 then (59, nanos + 1000000000) else (second, nanos)
  let seconds := date.toDays * 86400 + hour * 3600 + minute * 60 + second - east
  Instant.ofParts? seconds nanos

def parse (s : String) : Option Instant := do
  let (t, rest) ← instant.run s.toList
  if rest.all isBlank then return t else none

end WorkerMemory.Rfc3339
