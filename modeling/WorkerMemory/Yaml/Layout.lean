import WorkerMemory.Yaml.Token

/-! # YAML: layout

Blocks are told apart by indentation, and a key is known only by the colon after it. So the scanner
keeps the open indentations and the places where a key may have begun. -/

namespace WorkerMemory.Yaml

/-- An indentation inside another. -/
structure Indent where
  outer : Int
  /-- Set if its end is the end of a block. -/
  isBlock : Bool

/-- A place where a key may have begun. -/
structure KeyStart where
  line : Nat
  col : Nat
  index : Nat
  /-- The number of tokens before it. -/
  place : Nat
  /-- Set if nothing but a key can stand there. -/
  isRequired : Bool

structure Scanner where
  rest : List Char
  index : Nat := 0
  line : Nat := 0
  col : Nat := 0
  /-- Set while there have been only blanks on the line. -/
  isLineStart : Bool := true
  /-- The tokens found so far, each with its column, in order. -/
  tokens : List (Token × Nat) := []
  indent : Int := -1
  indents : List Indent := []
  isKeyAllowed : Bool := true
  keyStart : Option KeyStart := none
  /-- The key starts of the flow collections around, the innermost first. -/
  outerKeyStarts : List (Option KeyStart) := []
  /-- Where a colon needs no blank after it. -/
  colonIndex : Option Nat := none
  /-- For each open flow list, whether one of its elements is a map without braces. -/
  openMaps : List Bool := []
  /-- Set once a map has begun by braces or a question mark. -/
  isMapMarked : Bool := false

namespace Scanner

def flowDepth (s : Scanner) : Nat := s.outerKeyStarts.length

def isInFlow (s : Scanner) : Bool := !s.outerKeyStarts.isEmpty

end Scanner

abbrev Scan (α : Type) := StateT Scanner Option α

namespace Scan

/-! ## Moving on -/

def peekAt (n : Nat) : Scan Char := return (← get).rest.getD n '\x00'

def peek : Scan Char := peekAt 0

/-- A bound on the steps that can be taken in what is left. -/
def room : Scan Nat := return (← get).rest.length + 1

/-- Moves within the line. -/
def advance (n : Nat) : Scan Unit :=
  modify fun s => { s with rest := s.rest.drop n, index := s.index + n, col := s.col + n }

def skipBlank : Scan Unit := advance 1

/-- Moves over visible characters. -/
def skipMany (n : Nat) : Scan Unit := do
  advance n
  modify fun s => { s with isLineStart := false }

def skip : Scan Unit := skipMany 1

def skipBreak : Scan Unit := do
  if (← peek) = '\r' && (← peekAt 1) = '\n' then skipBlank
  if isBreak (← peek) then
    modify fun s => { s with
      rest := s.rest.tail, index := s.index + 1, line := s.line + 1, col := 0, isLineStart := true }

def takeBlanks (p : Char → Bool) : Scan (List Char) := do
  let found := (← get).rest.takeWhile p
  advance found.length
  return found

def takeWhile (p : Char → Bool) : Scan (List Char) := do
  let found := (← get).rest.takeWhile p
  unless found.isEmpty do skipMany found.length
  return found

def skipComment : Scan Unit := discard (takeWhile (!isBreakOrEnd ·))

/-- Blanks and a comment, which has to have blanks in front. -/
def skipToLineEnd (p : Char → Bool) : Scan (List Char) := do
  let blanks ← takeBlanks p
  if (← peek) = '#' then
    if blanks.isEmpty then failure
    skipComment
  return blanks

def startsWith (mark : List Char) : Scan Bool := do
  return mark.isPrefixOf (← get).rest && isGap (← peekAt mark.length)

/-- Whether a line that starts or ends a document begins here. -/
def atDocumentMark : Scan Bool := do
  return (← get).col = 0 && ((← startsWith "---".toList) || (← startsWith "...".toList))

/-! ## Tokens and keys -/

def push (token : Token) (col : Nat) : Scan Unit :=
  modify fun s => { s with tokens := s.tokens ++ [(token, col)] }

def insert (place : Nat) (token : Token) (col : Nat) : Scan Unit :=
  modify fun s => { s with tokens := s.tokens.take place ++ (token, col) :: s.tokens.drop place }

def allowKey (isKeyAllowed : Bool) : Scan Unit := modify fun s => { s with isKeyAllowed }

/-- A key may begin here. -/
def markKey : Scan Unit :=
  modify fun s =>
    if s.isKeyAllowed then
      { s with keyStart := some {
          line := s.line
          col := s.col
          index := s.index
          place := s.tokens.length
          isRequired := !s.isInFlow && s.indent == s.col && s.indents.head?.any (·.isBlock) } }
    else s

/-- There is no key after all. -/
def dropKey : Scan Unit := do
  if (← get).keyStart.any (·.isRequired) then failure
  modify fun s => { s with keyStart := none }

/-- Outside of flow collections a key stands on one line and is not long. -/
def dropOldKey : Scan Unit := do
  let s ← get
  let isOld (k : KeyStart) : Bool := k.line < s.line || k.index + 1024 < s.index
  if !s.isInFlow && s.keyStart.any isOld then dropKey

/-! ## Indentation -/

/-- Closes every indentation beyond a column. -/
def closeIndents (col : Int) : (indents : List Indent) → Scan Unit
  | [] => return ()
  | indent :: indents => do
    if col < (← get).indent then
      modify fun s => { s with indent := indent.outer, indents }
      if indent.isBlock then push .blockEnd (← get).col
      closeIndents col indents

def unroll (col : Int) : Scan Unit := do
  let s ← get
  unless s.isInFlow do closeIndents col s.indents

/-- A block begins at a column, unless it is open already. -/
def openBlock (col : Nat) (place : Option Nat) (token : Token) : Scan Unit := do
  unless (← get).isInFlow do
    modify fun s => match s.indents with
      | indent :: indents =>
        if s.indent ≤ col && !indent.isBlock then { s with indent := indent.outer, indents } else s
      | [] => s
    let s ← get
    if s.indent < col then
      set { s with indent := col, indents := { outer := s.indent, isBlock := true } :: s.indents }
      insert (place.getD s.tokens.length) token col

/-- What belongs to a key or an entry stands at least one column further right. -/
def indentByOne : Scan Unit :=
  modify fun s =>
    if !s.isInFlow && s.indents.head?.any (·.isBlock) then
      { s with
        indent := s.indent + 1
        indents := { outer := s.indent, isBlock := false } :: s.indents }
    else s

/-- Forgets the indentations that are no blocks. -/
def closeByOne : Scan Unit :=
  modify fun s =>
    let extra := s.indents.takeWhile (!·.isBlock)
    { s with
      indents := s.indents.drop extra.length
      indent := (extra.getLast?.map (·.outer)).getD s.indent }

/-! ## Between tokens -/

/-- A tab is no indentation. -/
def isTabMisplaced : Scan Bool := do
  let s ← get
  return !s.indents.isEmpty && s.isLineStart && s.col < s.indent

def skipToToken : (room : Nat) → Scan Unit
  | 0 => return ()
  | room + 1 => do
    match ← peek with
    | ' ' =>
      skipBlank
      skipToToken room
    | '\t' =>
      if ← isTabMisplaced then
        discard (skipToLineEnd isBlank)
        unless isBreakOrEnd (← peek) do failure
      else skipBlank
      skipToToken room
    | '\n' | '\r' =>
      skipBreak
      unless (← get).isInFlow do allowKey true
      skipToToken room
    | '#' =>
      skipComment
      skipToToken room
    | _ => return ()

end Scan

end WorkerMemory.Yaml
