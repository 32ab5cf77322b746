import WorkerMemory.Text.Numeral
import WorkerMemory.Yaml.Layout

/-! # YAML: scalars -/

namespace WorkerMemory.Yaml.Scan

/-- What a gap of `breaks` line breaks becomes when lines are joined: one break becomes a space, and
otherwise the first does not count. -/
def fold (breaks : Nat) : List Char :=
  if breaks = 1 then [' '] else List.replicate (breaks - 1) '\n'

/-! ## Plain scalars -/

/-- The front of a text up to a blank, or to an indicator that ends a plain scalar. -/
def plainWord (isInFlow : Bool) : List Char → List Char
  | [] => []
  | c :: cs =>
    let next := cs.headD '\x00'
    if isGap c || (c == ':' && (isGap next || (isInFlow && isFlow next))) || (isInFlow && isFlow c)
    then []
    else c :: plainWord isInFlow cs

/-- Line breaks and the blanks around them, the first break still to come. Before the column
`indent` a tab may only stand on an empty line. -/
def plainBreaks (indent : Int) : (room breaks : Nat) → Scan Nat
  | 0, breaks => return breaks
  | room + 1, breaks => do
    match ← peek with
    | ' ' =>
      skipBlank
      plainBreaks indent room breaks
    | '\t' =>
      if (← get).col < indent then
        discard (skipToLineEnd isBlank)
        unless isBreakOrEnd (← peek) do failure
      else skipBlank
      plainBreaks indent room breaks
    | '\n' | '\r' =>
      skipBreak
      plainBreaks indent room (breaks + 1)
    | _ => return breaks

/-- The words of a plain scalar. `joint` is what stands between the text so far and the next
word. -/
def plainWords (indent : Int) : (room : Nat) → (joint : List Char) → Scan (List Char)
  | 0, _ => return []
  | room + 1, joint => do
    if (← atDocumentMark) || (← peek) = '#' then return []
    let s ← get
    if s.isInFlow && (← peek) = '-' && isFlow (← peekAt 1) then failure
    let word := plainWord s.isInFlow s.rest
    if word.isEmpty then return []
    skipMany word.length
    let text := joint ++ word
    unless isBlank (← peek) || isBreak (← peek) do return text
    let blanks ← takeBlanks isBlank
    let breaks ← plainBreaks indent (← Scan.room) 0
    if !s.isInFlow && (← get).col < indent then return text
    return text ++ (← plainWords indent room (if breaks = 0 then blanks else fold breaks))

/-- A plain scalar may go on over lines that are indented more than its block. -/
def plainScalar : Scan Token := do
  closeByOne
  let s ← get
  let indent := s.indent + 1
  if s.isInFlow && s.col < indent then failure
  let text ← plainWords indent (← room) []
  if (← get).isLineStart then allowKey true
  if text.isEmpty then failure
  return .scalar true (String.ofList text)

/-! ## Quoted scalars -/

/-- The character after a backslash, or the number of hexadecimal digits that follow. -/
def escape? : Char → Option (Char ⊕ Nat)
  | '0' => some (.inl '\x00')
  | 'a' => some (.inl '\x07')
  | 'b' => some (.inl '\x08')
  | 't' | '\t' => some (.inl '\t')
  | 'n' => some (.inl '\n')
  | 'v' => some (.inl '\x0b')
  | 'f' => some (.inl '\x0c')
  | 'r' => some (.inl '\r')
  | 'e' => some (.inl '\x1b')
  | ' ' => some (.inl ' ')
  | '"' => some (.inl '"')
  | '/' => some (.inl '/')
  | '\\' => some (.inl '\\')
  | 'N' => some (.inl '\u0085')
  | '_' => some (.inl '\u00a0')
  | 'L' => some (.inl '\u2028')
  | 'P' => some (.inl '\u2029')
  | 'x' => some (.inr 2)
  | 'u' => some (.inr 4)
  | 'U' => some (.inr 8)
  | _ => none

def hexNumber (width : Nat) : Scan Nat := do
  let digits := (← get).rest.take width
  if digits.length < width then failure
  let n ← (Numeral.naturalIn? 16 digits : Option Nat)
  skipMany width
  return n

def escaped : Scan Char := do
  let meant ← (escape? (← peekAt 1) : Option (Char ⊕ Nat))
  skipMany 2
  match meant with
  | .inl c => return c
  | .inr width =>
    let n ← hexNumber width
    if n.isValidChar then return Char.ofNat n else failure

/-- Visible characters of a quoted scalar; true if a line break with a backslash ends them. -/
def quotedWord (quote : Char) : (room : Nat) → Scan (List Char × Bool)
  | 0 => return ([], false)
  | room + 1 => do
    let c ← peek
    let next ← peekAt 1
    if isGap c then return ([], false)
    else if c = quote && quote = '\'' && next = quote then
      skipMany 2
      let (cs, isJoined) ← quotedWord quote room
      return (quote :: cs, isJoined)
    else if c = quote then return ([], false)
    else if c = '\\' && quote = '"' && isBreak next then
      skip
      skipBreak
      return ([], true)
    else
      let meant ← if c = '\\' && quote = '"' then escaped else (do skip; pure c)
      let (cs, isJoined) ← quotedWord quote room
      return (meant :: cs, isJoined)

/-- Line breaks and the blanks after each of them. -/
def quotedBreaks : (room breaks : Nat) → Scan Nat
  | 0, breaks => return breaks
  | room + 1, breaks => do
    match ← peek with
    | ' ' =>
      skipBlank
      quotedBreaks room breaks
    | '\t' =>
      if (← get).col < (← get).indent then failure
      skipBlank
      quotedBreaks room breaks
    | '\n' | '\r' =>
      skipBreak
      quotedBreaks room (breaks + 1)
    | _ => return breaks

def quotedWords (quote : Char) : (room : Nat) → Scan (List Char)
  | 0 => failure
  | room + 1 => do
    if (← atDocumentMark) || isEnd (← peek) || (← get).col < (← get).indent then failure
    let (word, isJoined) ← quotedWord quote (← Scan.room)
    if (← peek) = quote then return word
    let blanks ← if isJoined then pure [] else takeBlanks isBlank
    let breaks ← quotedBreaks (← Scan.room) 0
    let joint :=
      if isJoined then List.replicate breaks '\n'
      else if breaks = 0 then blanks
      else fold breaks
    return word ++ joint ++ (← quotedWords quote room)

/-- Outside of flow collections only a colon or the end of the line may follow. -/
def quotedScalar (quote : Char) : Scan Token := do
  let line := (← get).line
  skip
  let text ← quotedWords quote (← room)
  skip
  discard (skipToLineEnd isBlank)
  let s ← get
  let c ← peek
  let fits :=
    isBreakOrEnd c || (s.isInFlow && (c == ',' || c == '\x7d' || c == ']' || c == ':')) ||
      (!s.isInFlow && c == ':' && s.line == line)
  unless fits do failure
  return .scalar false (String.ofList text)

/-! ## Block scalars -/

/-- What happens to the line breaks at the end of a block scalar. -/
inductive Chomping where
  | strip
  | clip
  | keep
  deriving DecidableEq, Repr

def chomping : Scan (Option Chomping) := do
  match ← peek with
  | '+' =>
    skip
    return some .keep
  | '-' =>
    skip
    return some .strip
  | _ => return none

def increment : Scan Nat := do
  let c ← peek
  if c = '0' then failure
  if c.isDigit then
    skip
    return c.toNat - '0'.toNat
  else return 0

/-- The signs after the indicator, in either order. -/
def blockHeader : Scan (Chomping × Nat) := do
  match ← chomping with
  | some c => return (c, ← increment)
  | none =>
    let n ← increment
    let c ← if n = 0 then pure none else chomping
    return (c.getD .clip, n)

/-- Empty lines, and the indentation of the first line that is not; at most `indent` columns of
it. -/
def skipIndent (indent : Nat) : (room breaks : Nat) → Scan Nat
  | 0, breaks => return breaks
  | room + 1, breaks => do
    let s ← get
    skipSpaces ((s.rest.takeWhile isSpace).length.min (indent - s.col))
    if isBreak (← peek) then
      skipBreak
      skipIndent indent room (breaks + 1)
    else return breaks
where
  skipSpaces (n : Nat) : Scan Unit := advance n

/-- As `skipIndent`, but all spaces count, and the deepest indentation is found out. -/
def findIndent : (room breaks deepest : Nat) → Scan (Nat × Nat)
  | 0, breaks, deepest => return (breaks, deepest)
  | room + 1, breaks, deepest => do
    discard (takeBlanks isSpace)
    let deepest := deepest.max (← get).col
    if isBreak (← peek) then
      skipBreak
      findIndent room (breaks + 1) deepest
    else return (breaks, deepest)

/-- The number of line breaks at the start of a block scalar, and the column of its lines. -/
def blockStart (increment : Nat) : Scan (Nat × Nat) := do
  let outer := (← get).indent
  if 0 < increment then
    let indent := if 0 ≤ outer then outer.toNat + increment else increment
    return (← skipIndent indent (← room) 0, indent)
  else
    let (breaks, deepest) ← findIndent (← room) 0 0
    let indent := deepest.max (outer + 1).toNat
    return (breaks, if 0 < outer then indent.max 1 else indent)

/-- The line breaks after a line of a block scalar. -/
structure LineGap where
  /-- Set if the line had an end at all. -/
  hasBreak : Bool
  /-- Empty lines after it. -/
  empty : Nat
  /-- The line began with a blank, so that it is not joined to the next. -/
  isBlank : Bool

/-- What stands between two lines. In a folded scalar they are joined if neither begins with a
blank. -/
def blockJoint (isLiteral : Bool) (gap : LineGap) (startsBlank : Bool) : List Char :=
  if !isLiteral && gap.hasBreak && !gap.isBlank && !startsBlank then
    if gap.empty = 0 then [' '] else List.replicate gap.empty '\n'
  else List.replicate ((if gap.hasBreak then 1 else 0) + gap.empty) '\n'

def blockLines (isLiteral : Bool) (indent : Nat) : (room : Nat) → LineGap →
    Scan (List Char × LineGap)
  | 0, gap => return ([], gap)
  | room + 1, gap => do
    let s ← get
    let c ← peek
    let isDone := s.col != indent || isEnd c ||
      (indent == 0 && s.col == 0 && (← startsWith "...".toList))
    if isDone then return ([], gap)
    let joint := blockJoint isLiteral gap (isBlank c)
    let line ← takeWhile (!isBreakOrEnd ·)
    if isEnd (← peek) then
      return (joint ++ line, { hasBreak := false, empty := 0, isBlank := isBlank c })
    skipBreak
    let empty ← skipIndent indent (← Scan.room) 0
    let (more, last) ← blockLines isLiteral indent room
      { hasBreak := true, empty, isBlank := isBlank c }
    return (joint ++ line ++ more, last)

/-- A line that ends with the text counts as ended by a break. -/
def blockTail (chomping : Chomping) (gap : LineGap) (endsText : Bool) : List Char :=
  let last := List.replicate ((if gap.hasBreak then 1 else 0) + if endsText then 1 else 0) '\n'
  match chomping with
  | .strip => []
  | .clip => last
  | .keep => last ++ List.replicate gap.empty '\n'

/-- The text of a block scalar without a visible line. -/
def blockOfBreaks (chomping : Chomping) (isSameLine : Bool) (headBreak empty : Nat) : List Char :=
  if isSameLine then []
  else match chomping with
    | .strip => []
    | .clip => List.replicate headBreak '\n'
    | .keep => List.replicate (if empty = 0 then headBreak else empty) '\n'

def blockScalar (isLiteral : Bool) : Scan Token := do
  let line := (← get).line
  skip
  closeByOne
  let (chomping, increment) ← blockHeader
  discard (skipToLineEnd isBlank)
  unless isBreakOrEnd (← peek) do failure
  let headBreak := if isBreak (← peek) then 1 else 0
  skipBreak
  if (← peek) = '\t' then failure
  let (empty, indent) ← blockStart increment
  let s ← get
  if isEnd (← peek) then
    return .scalar false (String.ofList
      (blockOfBreaks chomping (s.line == line) headBreak empty))
  if s.col < indent && s.indent < s.col then failure
  let (text, last) ← blockLines isLiteral indent (← room)
    { hasBreak := false, empty, isBlank := false }
  let endsText := isEnd (← peek) && indent.max 1 ≤ (← get).col
  return .scalar false (String.ofList (text ++ blockTail chomping last endsText))

end WorkerMemory.Yaml.Scan
