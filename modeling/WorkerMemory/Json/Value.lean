import WorkerMemory.Json.Record

/-! # JSON values of any shape -/

namespace WorkerMemory.Json

inductive Value where
  | null
  | bool (value : Bool)
  | number (value : Number)
  | string (value : String)
  | array (elements : List Value)
  | object (members : List (String × Value))

namespace Reader

/-- What the text is in the middle of, at one level of nesting. -/
inductive Frame where
  /-- A list with the elements read so far, the last one first. -/
  | array (elements : List Value)
  /-- An object with the members read so far, the last one first, and the key of the next. -/
  | object (members : List (String × Value)) (key : String)

/-- Lists and objects may be nested 127 deep. -/
def nestingLimit : Nat := 127

def memberKey : Reader String := do
  blanksThen '"'
  let key ← afterQuote
  blanksThen ':'
  return key

mutual

/-- A value inside the lists and objects of `within`, the innermost first, and then all that is
left of those. `room` bounds the number of steps. -/
def valueWithin (limit : Nat) : (room : Nat) → (within : List Frame) → Reader Value
  | 0, _ => unexpected
  | room + 1, within => do
    skipBlanks
    match ← peek with
    | some 'n' => word ['n', 'u', 'l', 'l'] *> closeWith limit room within .null
    | some 't' => word ['t', 'r', 'u', 'e'] *> closeWith limit room within (.bool true)
    | some 'f' => word ['f', 'a', 'l', 's', 'e'] *> closeWith limit room within (.bool false)
    | some '"' =>
      skip
      closeWith limit room within (.string (← afterQuote))
    | some '[' =>
      if limit ≤ within.length then throw .malformed
      skip
      skipBlanks
      if (← peek) = some ']' then skip *> closeWith limit room within (.array [])
      else valueWithin limit room (.array [] :: within)
    | some '\x7b' =>
      if limit ≤ within.length then throw .malformed
      skip
      skipBlanks
      if (← peek) = some '\x7d' then skip *> closeWith limit room within (.object [])
      else
        let key ← memberKey
        valueWithin limit room (.object [] key :: within)
    | some c =>
      if isNumberStart c then closeWith limit room within (.number (← number)) else unexpected
    | none => unexpected

/-- A value has just ended; what follows it depends on what it stands in. -/
def closeWith (limit : Nat) : (room : Nat) → (within : List Frame) → Value → Reader Value
  | _, [], v => return v
  | 0, _, _ => unexpected
  | room + 1, .array elements :: within, v => do
    skipBlanks
    match ← peek with
    | some ',' =>
      skip
      skipBlanks
      if (← peek) = some ']' then unexpected
      valueWithin limit room (.array (v :: elements) :: within)
    | some ']' => skip *> closeWith limit room within (.array (v :: elements).reverse)
    | _ => unexpected
  | room + 1, .object members key :: within, v => do
    skipBlanks
    match ← peek with
    | some ',' =>
      skip
      let next ← memberKey
      valueWithin limit room (.object ((key, v) :: members) next :: within)
    | some '\x7d' => skip *> closeWith limit room within (.object ((key, v) :: members).reverse)
    | _ => unexpected

end

/-- A value in a text where `depth` lists and objects are open already. -/
def value (depth : Nat) : Reader Value := do
  valueWithin (nestingLimit - depth) (2 * (← get).length + 2) []

end Reader

end WorkerMemory.Json
