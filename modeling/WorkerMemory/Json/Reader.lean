import WorkerMemory.Integer
import WorkerMemory.Json.Number
import WorkerMemory.Text.Numeral

/-! # Reading JSON texts -/

namespace WorkerMemory.Json

/-- Why a text cannot be read: it is no JSON, it is JSON of another shape, or it breaks off. -/
inductive Fault where
  | malformed
  | mismatched
  | truncated
  deriving DecidableEq, Repr

/-- A reader takes what it needs from the front of the text. -/
abbrev Reader (α : Type) := StateT (List Char) (Except Fault) α

namespace Reader

variable {α : Type}

/-- The text cannot go on like this. -/
def unexpected : Reader α := do
  throw (if (← get).isEmpty then .truncated else .malformed)

def mismatched : Reader α := throw .mismatched

def peek : Reader (Option Char) := return (← get).head?

def skip : Reader Unit := modify List.tail

def isBlank (c : Char) : Bool := c == ' ' || c == '\n' || c == '\t' || c == '\r'

def skipBlanks : Reader Unit := modify (List.dropWhile isBlank)

def expect (c : Char) : Reader Unit := do
  if (← peek) = some c then skip else unexpected

def word (cs : List Char) : Reader Unit := cs.forM expect

/-- What fits after an opening brace or comma, up to and including `c`. -/
def blanksThen (c : Char) : Reader Unit := do
  skipBlanks
  expect c

/-! ## Strings -/

/-- Four hexadecimal digits. The text breaks off if fewer than four bytes are left. -/
def fourHex : Reader Nat := do
  let digits := (← get).take 4
  if (String.ofList digits).utf8ByteSize < 4 then throw .truncated
  else match Numeral.naturalIn? 16 digits with
    | some n =>
      modify (List.drop 4)
      return n
    | none => throw .malformed

def isHighSurrogate (n : Nat) : Bool := 0xD800 ≤ n && n ≤ 0xDBFF

def isLowSurrogate (n : Nat) : Bool := 0xDC00 ≤ n && n ≤ 0xDFFF

/-- The character named by `\u` and its digits, which two such make up if the first is a high
surrogate. -/
def unicodeEscape : Reader Char := do
  let first ← fourHex
  if isLowSurrogate first then throw .malformed
  else if isHighSurrogate first then
    expect '\\'
    expect 'u'
    let second ← fourHex
    if isLowSurrogate second then
      return Char.ofNat (0x10000 + (first - 0xD800) * 0x400 + (second - 0xDC00))
    else throw .malformed
  else return Char.ofNat first

def plainEscape? : Char → Option Char
  | '"' => some '"'
  | '\\' => some '\\'
  | '/' => some '/'
  | 'b' => some '\x08'
  | 'f' => some '\x0c'
  | 'n' => some '\n'
  | 'r' => some '\r'
  | 't' => some '\t'
  | _ => none

/-- What stands after a backslash. -/
def escape : Reader Char := do
  match ← peek with
  | some 'u' =>
    skip
    unicodeEscape
  | some c => match plainEscape? c with
    | some meant =>
      skip
      return meant
    | none => unexpected
  | none => unexpected

/-- The rest of a string after its opening quote. `room` is at least the number of characters that
are left. -/
def stringBody : (room : Nat) → Reader (List Char)
  | 0 => unexpected
  | room + 1 => do
    match ← peek with
    | none => unexpected
    | some '"' =>
      skip
      return []
    | some '\\' =>
      skip
      let c ← escape
      return c :: (← stringBody room)
    | some c =>
      if c.toNat < 0x20 then unexpected
      else
        skip
        return c :: (← stringBody room)

/-- A string, the opening quote already taken. -/
def afterQuote : Reader String := do
  return String.ofList (← stringBody ((← get).length + 1))

/-! ## Numbers -/

def takeDigits : Reader (List Nat) := do
  let cs ← get
  set (cs.dropWhile Char.isDigit)
  return (cs.takeWhile Char.isDigit).filterMap Numeral.digit?

/-- At least one digit. -/
def someDigits : Reader (List Nat) := do
  match ← takeDigits with
  | [] => unexpected
  | digits => return digits

def exponentDigits : Reader (Bool × Nat) := do
  skip
  let isNegative := (← peek) = some '-'
  if isNegative || (← peek) = some '+' then skip
  let digits ← someDigits
  return (isNegative, digits.foldl (fun n d => 10 * n + d) 0)

def isExponentMark (c : Option Char) : Bool := c = some 'e' || c = some 'E'

/-- The part of a number after its integer digits. -/
def numberTail (isNegative : Bool) (whole : Number.Partial) : Reader Number := do
  let hasPoint := (← peek) = some '.'
  let p ← if hasPoint then do
      skip
      pure ((← someDigits).foldl Number.Partial.pushFraction whole)
    else pure whole
  let hasExponent := isExponentMark (← peek)
  let (sign, exponent) ← if hasExponent then exponentDigits else pure (false, 0)
  let value := if hasPoint || hasExponent then (p.real isNegative sign exponent).map .real
    else Number.ofInteger isNegative p
  match value with
  | some n => return n
  | none => throw .malformed

/-- A number from its first digit on. A leading zero stands alone. -/
def afterSign (isNegative : Bool) : Reader Number := do
  match ← someDigits with
  | 0 :: _ :: _ => throw .malformed
  | digits => numberTail isNegative (digits.foldl Number.Partial.push {})

def number : Reader Number := do
  if (← peek) = some '-' then
    skip
    afterSign true
  else afterSign false

def isNumberStart (c : Char) : Bool := c == '-' || c.isDigit

/-! ## Values of one shape -/

/-- A value of a shape that is not wanted. Only what decides its shape is looked at. -/
def otherShape : Reader α := do
  match ← peek with
  | some 'n' => word ['n', 'u', 'l', 'l'] *> mismatched
  | some 't' => word ['t', 'r', 'u', 'e'] *> mismatched
  | some 'f' => word ['f', 'a', 'l', 's', 'e'] *> mismatched
  | some '"' => skip *> afterQuote *> mismatched
  | some '[' | some '\x7b' => mismatched
  | some c => if isNumberStart c then number *> mismatched else unexpected
  | none => unexpected

def integer : Reader Int := do
  skipBlanks
  if (← peek).any isNumberStart then
    match ← number with
    | .int n => return n
    | .real _ => mismatched
  else otherShape

def fitting (fit? : Int → Option α) : Reader α := do
  match fit? (← integer) with
  | some n => return n
  | none => mismatched

def uint32 : Reader UInt32 := fitting Integer.uint32?

def uint64 : Reader UInt64 := fitting Integer.uint64?

def int64 : Reader Int64 := fitting Integer.int64?

def bool : Reader Bool := do
  skipBlanks
  match ← peek with
  | some 't' => word ['t', 'r', 'u', 'e'] *> return true
  | some 'f' => word ['f', 'a', 'l', 's', 'e'] *> return false
  | _ => otherShape

def string : Reader String := do
  skipBlanks
  match ← peek with
  | some '"' => skip *> afterQuote
  | _ => otherShape

def nullable (read : Reader α) : Reader (Option α) := do
  skipBlanks
  match ← peek with
  | some 'n' => word ['n', 'u', 'l', 'l'] *> return none
  | _ => return some (← read)

/-- A string that stands for a value. -/
def parsed (parse : String → Option α) : Reader α := do
  match parse (← string) with
  | some a => return a
  | none => mismatched

/-! ## Values that are passed over -/

/-- The number is looked at character by character; one that breaks off is malformed. -/
def skipNumber : Reader Unit := do
  if (← peek) = some '-' then skip
  match ← takeDigits with
  | [] | 0 :: _ :: _ => throw .malformed
  | _ =>
    if (← peek) = some '.' then
      skip
      if (← takeDigits).isEmpty then throw .malformed
    if isExponentMark (← peek) then
      skip
      if (← peek) = some '-' || (← peek) = some '+' then skip
      if (← takeDigits).isEmpty then throw .malformed

/-- As `stringBody`, but surrogates need not come in pairs. -/
def skipString : (room : Nat) → Reader Unit
  | 0 => unexpected
  | room + 1 => do
    match ← peek with
    | none => unexpected
    | some '"' => skip
    | some '\\' =>
      skip
      match ← peek with
      | some 'u' => skip *> fourHex *> skipString room
      | some c => if (plainEscape? c).isSome then skip *> skipString room else unexpected
      | none => unexpected
    | some c => if c.toNat < 0x20 then unexpected else skip *> skipString room

/-- What the text is in the middle of. -/
inductive Place where
  /-- A value comes next. -/
  | value
  /-- A value has just ended. -/
  | afterValue
  /-- A list or an object has just begun. -/
  | opened
  /-- A key comes next. -/
  | key
  deriving DecidableEq, Repr

/-- Passes over one value. `within` has the closing bracket of every list and object that is still
open, the innermost first. -/
def skipFrom : (room : Nat) → Place → (within : List Char) → Reader Unit
  | 0, _, _ => unexpected
  | _ + 1, .afterValue, [] => return ()
  | room + 1, .value, within => do
    skipBlanks
    match ← peek with
    | some 'n' => word ['n', 'u', 'l', 'l'] *> skipFrom room .afterValue within
    | some 't' => word ['t', 'r', 'u', 'e'] *> skipFrom room .afterValue within
    | some 'f' => word ['f', 'a', 'l', 's', 'e'] *> skipFrom room .afterValue within
    | some '"' =>
      skip
      skipString ((← get).length + 1)
      skipFrom room .afterValue within
    | some '[' => skip *> skipFrom room .opened (']' :: within)
    | some '\x7b' => skip *> skipFrom room .opened ('\x7d' :: within)
    | some c =>
      if isNumberStart c then skipNumber *> skipFrom room .afterValue within else unexpected
    | none => unexpected
  | room + 1, .opened, within => do
    skipBlanks
    match ← peek with
    | none => unexpected
    | some c =>
      if within.head? = some c then skip *> skipFrom room .afterValue within.tail
      else skipFrom room (if within.head? = some ']' then .value else .key) within
  | room + 1, .afterValue, closing :: within => do
    skipBlanks
    match ← peek with
    | some ',' => skip *> skipFrom room (if closing = ']' then .value else .key) (closing :: within)
    | some c => if c = closing then skip *> skipFrom room .afterValue within else unexpected
    | none => unexpected
  | room + 1, .key, within => do
    blanksThen '"'
    skipString ((← get).length + 1)
    blanksThen ':'
    skipFrom room .value within

def skipValue : Reader Unit := do
  skipFrom (2 * (← get).length + 2) .value []

end Reader

end WorkerMemory.Json
