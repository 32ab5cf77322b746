import WorkerMemory.Toml.Moment
import WorkerMemory.Toml.Number
import WorkerMemory.Toml.Table

/-! # TOML documents -/

namespace WorkerMemory.Toml

open Text Text.Reader

/-! ## Values -/

/-- The elements of a list, the opening bracket already taken. -/
def elements (element : Reader Loose) : (room : Nat) → Reader (List Loose)
  | 0 => failure
  | room + 1 => do
    skipBetween
    if ← accept [']'] then return []
    let v ← element
    skipBetween
    if ← accept [','] then return v :: (← elements element room)
    else
      expect ']'
      return [v]

def keyAndValue (value : Reader Loose) : Reader (List String × Loose) := do
  let keys ← keys
  expect '='
  skipBlanks
  return (keys, ← value)

/-- The pairs of an inline table up to its end. -/
def pairs (value : Reader Loose) : (room : Nat) → Entries → Reader Entries
  | 0, _ => failure
  | room + 1, entries => do
    let (keys, v) ← keyAndValue value
    let entries ← entries.add keys v
    skipBlanks
    if ← accept [','] then pairs value room entries
    else
      expect '\x7d'
      return entries

def inlineTable (value : Reader Loose) : Reader Loose := do
  skipBlanks
  if ← accept ['\x7d'] then return .table []
  else return .table (toLooseEntries (← pairs value (← room) []))

def numberOrMoment : Reader Loose := do
  let cs ← get
  if startsDate cs || startsTime cs then return .text (← moment) else number

def isNumberStart (c : Char) : Bool :=
  c.isDigit || c == '+' || c == '-' || c == 'i' || c == 'n'

/-- A value that has no others inside it. -/
def scalar : Reader Loose := do
  match ← peek with
  | some '"' | some '\'' => return .text (← string)
  | some c =>
    if isNumberStart c then numberOrMoment
    else if ← accept "true".toList then return .bool true
    else if ← accept "false".toList then return .bool false
    else failure
  | none => failure

/-- Lists and inline tables may be nested `depth` times. -/
def value : (depth : Nat) → Reader Loose
  | 0 => scalar
  | depth + 1 => do
    if ← accept ['['] then return .list (← elements (value depth) (← room))
    else if ← accept ['\x7b'] then inlineTable (value depth)
    else scalar

/-! ## Lines -/

/-- What the lines have defined so far, and the header of the table they are in. -/
structure Document where
  entries : Entries := []
  current : List String := []

namespace Document

/-- Adds to the current table. -/
def add (d : Document) (keys : List String) (v : Loose) : Option Document := do
  let put (_ : Origin) (entries : Entries) : Option Entries := entries.add keys v
  return { d with entries := ← Entries.change .implied put d.current .header d.entries }

def header (d : Document) : Reader Document := do
  if ← accept ['[', '['] then
    let keys ← keys
    expect ']'
    expect ']'
    lineEnd
    return { entries := ← d.entries.openElement keys, current := keys }
  else
    expect '['
    let keys ← keys
    expect ']'
    lineEnd
    return { entries := ← d.entries.openTable keys, current := keys }

def line (d : Document) : Reader Document := do
  match ← peek with
  | some '[' => d.header
  | some '#' | some '\n' | some '\r' => lineEnd *> return d
  | _ =>
    let (keys, v) ← keyAndValue (value (nestingLimit - 1))
    lineEnd
    d.add keys v

def lines : (room : Nat) → Document → Reader Document
  | 0, _ => failure
  | room + 1, d => do
    skipBlanks
    if (← get).isEmpty then return d
    else lines room (← d.line)

/-- A byte order mark may stand in front. -/
def read : Reader Document := do
  discard (accept ['\ufeff'])
  lines (← room) {}

end Document

/-- The entries of a text, or none if it is malformed. -/
def parse? (text : String) : Option (List (String × Loose)) :=
  (whole Document.read text.toList).map fun d => toLooseEntries d.entries

end WorkerMemory.Toml
