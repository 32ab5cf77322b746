/-! # Reading from the front of a text -/

namespace WorkerMemory.Text

/-- Takes what it needs from the front of a text and leaves the rest, or fails. -/
abbrev Reader (α : Type) := StateT (List Char) Option α

namespace Reader

variable {α : Type}

def peek : Reader (Option Char) := return (← get).head?

def skip : Reader Unit := modify List.tail

def expect (c : Char) : Reader Unit := do
  if (← peek) = some c then skip else failure

def startsWith (word : List Char) : Reader Bool := return word.isPrefixOf (← get)

/-- Takes a word if it comes next. -/
def accept (word : List Char) : Reader Bool := do
  if ← startsWith word then
    modify (List.drop word.length)
    return true
  else return false

def takeWhile (p : Char → Bool) : Reader (List Char) := do
  let cs ← get
  set (cs.dropWhile p)
  return cs.takeWhile p

def skipWhile (p : Char → Bool) : Reader Unit := modify (List.dropWhile p)

def takeSome (p : Char → Bool) : Reader (List Char) := do
  let found ← takeWhile p
  if found.isEmpty then failure
  return found

/-- Exactly `n` characters of a kind. -/
def takeExactly (n : Nat) (p : Char → Bool) : Reader (List Char) := do
  let cs ← get
  if (cs.take n).length < n || !(cs.take n).all p then failure
  set (cs.drop n)
  return cs.take n

/-- A bound on the steps that can be taken in what is left. -/
def room : Reader Nat := return (← get).length + 1

/-- A text as a whole. -/
def whole (read : Reader α) (cs : List Char) : Option α := do
  let (a, rest) ← read.run cs
  if rest.isEmpty then return a else none

end Reader

end WorkerMemory.Text
