import WorkerMemory.Json.Reader

/-! # Reading records

A record is an object with named members, or a list of the member values in their order. -/

namespace WorkerMemory.Json.Reader

variable {α σ : Type}

/-- One member of a record that is read into `σ`. A member is given at most once. -/
structure Member (σ : Type) where
  name : String
  isSet : σ → Bool
  read : σ → Reader σ

/-- The members of an object after its opening brace, up to the closing one. `room` is at least the
number of characters that are left. -/
def members (member : String → σ → Reader σ) : (room : Nat) → (isFirst : Bool) → σ → Reader σ
  | 0, _, _ => unexpected
  | room + 1, isFirst, s => do
    skipBlanks
    if (← peek) = some '\x7d' then return s
    if !isFirst then
      expect ','
      skipBlanks
    expect '"'
    let key ← afterQuote
    blanksThen ':'
    members member room false (← member key s)

def membersOf (member : String → σ → Reader σ) (s : σ) : Reader σ := do
  members member ((← get).length + 1) true s

/-- The elements of a list after its opening bracket, as many as there are readers for. -/
def elements : List (σ → Reader σ) → (isFirst : Bool) → σ → Reader σ
  | [], _, s => return s
  | read :: readers, isFirst, s => do
    skipBlanks
    if (← peek) = some ']' then return s
    if !isFirst then
      expect ','
      skipBlanks
      if (← peek) = some ']' then unexpected
    elements readers false (← read s)

def known (fields : List (Member σ)) (other : String → σ → Reader σ) (key : String) (s : σ) :
    Reader σ :=
  match fields.find? (·.name == key) with
  | some field => if field.isSet s then mismatched else field.read s
  | none => other key s

/-- An object; `finish` may still find a member missing. -/
def object (fields : List (Member σ)) (other : String → σ → Reader σ) (start : σ)
    (finish : σ → Except Fault α) : Reader α := do
  skipBlanks
  if (← peek) = some '\x7b' then
    skip
    let a ← finish (← membersOf (known fields other) start)
    blanksThen '\x7d'
    return a
  else otherShape

/-- An object or a list. Members of other names are passed over. -/
def record (fields : List (Member σ)) (start : σ) (finish : σ → Except Fault α) : Reader α := do
  skipBlanks
  if (← peek) = some '[' then
    skip
    let a ← finish (← elements (fields.map (·.read)) true start)
    blanksThen ']'
    return a
  else object fields (fun _ s => skipValue *> return s) start finish

/-- The whole text is one value. -/
def whole (read : Reader α) (text : String) : Except Fault α := do
  let (a, rest) ← StateT.run read text.toList
  if rest.all isBlank then return a else throw .malformed

def required (a : Option α) : Except Fault α :=
  match a with
  | some a => .ok a
  | none => .error .mismatched

end WorkerMemory.Json.Reader
