import WorkerMemory.Text.Numeral
import WorkerMemory.Text.Reader

/-! # TOML: blanks, comments, keys and strings -/

namespace WorkerMemory.Toml

open Text Text.Reader

/-! ## Between the values -/

def isBlank (c : Char) : Bool := c == ' ' || c == '\t'

/-- A character that may stand in a comment. -/
def isPlain (c : Char) : Bool := c == '\t' || (0x20 ≤ c.toNat && c.toNat != 0x7F)

def skipBlanks : Reader Unit := skipWhile isBlank

/-- A carriage return does not end a line by itself. -/
def newline : Reader Unit := do
  if (← peek) = some '\r' then skip
  expect '\n'

def atNewline : Reader Bool := return (← startsWith ['\n']) || (← startsWith ['\r', '\n'])

def comment : Reader Unit := do
  if (← peek) = some '#' then skipWhile isPlain

/-- What may follow a value or a header on its line. -/
def lineEnd : Reader Unit := do
  skipBlanks
  comment
  unless (← get).isEmpty do newline

/-- Blanks, comments and newlines. -/
def skipLines : (room : Nat) → Reader Unit
  | 0 => return ()
  | room + 1 => do
    skipBlanks
    comment
    if ← atNewline then
      newline
      skipLines room

def skipBetween : Reader Unit := do skipLines (← room)

/-! ## Strings -/

/-- What stands after a backslash. -/
def escape : Reader Char := do
  let c ← peek
  skip
  match c with
  | some 'b' => return '\x08'
  | some 'f' => return '\x0c'
  | some 'n' => return '\n'
  | some 'r' => return '\r'
  | some 't' => return '\t'
  | some '"' => return '"'
  | some '\\' => return '\\'
  | some 'u' => codePoint 4
  | some 'U' => codePoint 8
  | _ => failure
where
  codePoint (width : Nat) : Reader Char := do
    let digits ← takeExactly width fun c => (Numeral.digitIn? 16 c).isSome
    match (Numeral.naturalIn? 16 digits).filter Nat.isValidChar with
    | some n => return Char.ofNat n
    | none => failure

/-- A string on one line, its opening quote already taken. -/
def basicBody : (room : Nat) → Reader (List Char)
  | 0 => failure
  | room + 1 => do
    let c ← peek
    skip
    match c with
    | some '"' => return []
    | some '\\' =>
      let meant ← escape
      return meant :: (← basicBody room)
    | some c => if isPlain c then return c :: (← basicBody room) else failure
    | none => failure

def literalBody : Reader (List Char) := do
  let cs ← takeWhile fun c => isPlain c && c != '\''
  expect '\''
  return cs

/-- Up to two quotes may stand in front of the three that end a string. -/
def closingQuotes (quote : Char) : Reader (Option (List Char)) := do
  let n := ((← get).takeWhile (· == quote)).length
  if n < 3 then return none
  else
    let extra := min (n - 3) 2
    modify (List.drop (extra + 3))
    return some (List.replicate extra quote)

/-- A backslash at the end of a line takes away everything up to the next visible character. -/
def atLineJoin : Reader Bool := do
  let rest := (← get).tail.dropWhile isBlank
  return ['\\'].isPrefixOf (← get) && (['\n'].isPrefixOf rest || ['\r', '\n'].isPrefixOf rest)

def joinLines : (room : Nat) → Reader Unit
  | 0 => return ()
  | room + 1 => do
    skipBlanks
    if ← atNewline then
      newline
      joinLines room

/-- A string on several lines, its opening quotes already taken. Every newline counts as a line
feed. -/
def linesBody (quote : Char) (escapes : Bool) : (room : Nat) → Reader (List Char)
  | 0 => failure
  | room + 1 => do
    match ← closingQuotes quote with
    | some extra => return extra
    | none =>
      if escapes && (← atLineJoin) then
        skip
        joinLines (← Reader.room)
        linesBody quote escapes room
      else if ← atNewline then
        newline
        return '\n' :: (← linesBody quote escapes room)
      else
        let c ← peek
        skip
        match c with
        | some '\\' =>
          let meant ← if escapes then escape else pure '\\'
          return meant :: (← linesBody quote escapes room)
        | some c => if isPlain c then return c :: (← linesBody quote escapes room) else failure
        | none => failure

/-- A newline right after the opening quotes does not count. -/
def linesString (quote : Char) (escapes : Bool) : Reader String := do
  if ← atNewline then newline
  return String.ofList (← linesBody quote escapes (← room))

def lineString : Reader String := do
  if ← accept ['"'] then return String.ofList (← basicBody (← room))
  else
    expect '\''
    return String.ofList (← literalBody)

def string : Reader String := do
  if ← accept ['"', '"', '"'] then linesString '"' true
  else if ← accept ['\'', '\'', '\''] then linesString '\'' false
  else lineString

/-! ## Keys -/

def isBareKey (c : Char) : Bool := c.isAlphanum || c == '-' || c == '_'

def simpleKey : Reader String := do
  match ← peek with
  | some '"' | some '\'' => lineString
  | _ => return String.ofList (← takeSome isBareKey)

/-- So many keys with points between them are one too many. -/
def nestingLimit : Nat := 80

/-- Keys with points between them. -/
def keysWithin : (room : Nat) → Reader (List String)
  | 0 => failure
  | room + 1 => do
    skipBlanks
    let key ← simpleKey
    skipBlanks
    if ← accept ['.'] then return key :: (← keysWithin room)
    else return [key]

def keys : Reader (List String) := keysWithin (nestingLimit - 1)

end WorkerMemory.Toml
