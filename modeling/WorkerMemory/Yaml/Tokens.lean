import WorkerMemory.Text.Alphanumeric
import WorkerMemory.Yaml.Scalar

/-! # YAML: the tokens of a text -/

namespace WorkerMemory.Yaml.Scan

/-! ## Anchors and tags -/

def name (p : Char → Bool) : Scan String := return String.ofList (← takeWhile p)

def anchorName : Scan String := do
  skip
  let name ← name isAnchor
  if name.isEmpty then failure
  return name

/-- The bytes that a lead byte says its character takes. -/
def escapeWidth? (byte : Nat) : Option Nat :=
  if byte < 0x80 then some 1
  else if 0xC0 ≤ byte && byte < 0xE0 then some 2
  else if 0xE0 ≤ byte && byte < 0xF0 then some 3
  else if 0xF0 ≤ byte && byte < 0xF8 then some 4
  else none

def escapedByte : Scan Nat := do
  if (← peek) != '%' then failure
  skip
  hexNumber 2

/-- Bytes behind percent signs. They are strung together as they are. -/
def uriEscape : Scan Char := do
  let first ← escapedByte
  let width ← (escapeWidth? first : Option Nat)
  let more ← (List.range (width - 1)).mapM fun _ => escapedByte
  if more.any fun byte => byte < 0x80 || 0xC0 ≤ byte then failure
  let n := more.foldl (fun n byte => 256 * n + byte) first
  if n.isValidChar then return Char.ofNat n else failure

def uriText (p : Char → Bool) : (room : Nat) → Scan (List Char)
  | 0 => return []
  | room + 1 => do
    let c ← peek
    if c = '%' then
      let meant ← uriEscape
      return meant :: (← uriText p room)
    else if p c then
      skip
      return c :: (← uriText p room)
    else return []

def uri (p : Char → Bool) : Scan String := return String.ofList (← uriText p (← room))

/-- `!`, `!word` or `!word!`. -/
def tagHandle : Scan String := do
  if (← peek) != '!' then failure
  skip
  let word ← name isWord
  if (← peek) = '!' then
    skip
    return "!" ++ word ++ "!"
  else return "!" ++ word

/-- Whether a handle is more than one exclamation mark and ends in one. -/
def isNamedHandle (handle : String) : Bool := 2 ≤ handle.length && handle.endsWith "!"

def verbatimTag : Scan Token := do
  skipMany 2
  let text ← uri isUri
  if (← peek) != '>' then failure
  skip
  return .tag "" text

def shorthandTag : Scan Token := do
  let handle ← tagHandle
  let suffix ← uri isTag
  if isNamedHandle handle then
    if suffix.isEmpty then failure
    return .tag handle suffix
  else
    let suffix := String.ofList handle.toList.tail ++ suffix
    return if suffix.isEmpty then .tag "" "!" else .tag "!" suffix

def tag : Scan Token := do
  let token ← if (← peekAt 1) = '<' then verbatimTag else shorthandTag
  let c ← peek
  if isGap c || ((← get).isInFlow && isFlow c) then return token else failure

/-! ## Directives -/

def versionNumber : Scan Unit := do
  let digits ← takeWhile Char.isDigit
  if digits.isEmpty || 9 < digits.length then failure

def versionDirective : Scan Token := do
  discard (takeBlanks isBlank)
  versionNumber
  if (← peek) != '.' then failure
  skip
  versionNumber
  return .versionDirective

/-- What a prefix begins with: an exclamation mark, or a character that a tag may have. -/
def tagMeaning : Scan String := do
  let c ← peek
  if c = '!' then
    skip
    return "!" ++ (← uri isUri)
  else if isTag c then uri isUri
  else failure

def tagDirective : Scan Token := do
  discard (takeBlanks isBlank)
  let handle ← tagHandle
  unless handle = "!" || isNamedHandle handle do failure
  discard (takeBlanks isBlank)
  let meant ← tagMeaning
  if isGap (← peek) then return .tagDirective handle meant else failure

/-- An unknown directive is passed over. -/
def directive : Scan Token := do
  skip
  let name ← name isWord
  if name.isEmpty || !isGap (← peek) then failure
  let token ← match name with
    | "YAML" => versionDirective
    | "TAG" => tagDirective
    | _ =>
      skipComment
      pure (.tagDirective "" "")
  discard (skipToLineEnd isBlank)
  unless isBreakOrEnd (← peek) do failure
  skipBreak
  return token

/-! ## Indicators -/

/-- A node that may turn out to be a key. -/
def node (read : Scan Token) : Scan Unit := do
  markKey
  allowKey false
  let col := (← get).col
  push (← read) col

def quotedNode (quote : Char) : Scan Unit := do
  markKey
  allowKey false
  let col := (← get).col
  let token ← quotedScalar quote
  skipToToken (← room)
  modify fun s => { s with colonIndex := some s.index }
  push token col

def blockNode (isLiteral : Bool) : Scan Unit := do
  markKey
  allowKey true
  let col := (← get).col
  push (← blockScalar isLiteral) col

/-- The start or end of a document, or of the directives in front of one. -/
def closeDocument : Scan Unit := do
  unroll (-1)
  dropKey
  allowKey false

def directiveLine : Scan Unit := do
  closeDocument
  push (← directive) 0

def documentStart : Scan Unit := do
  closeDocument
  skipMany 3
  push .documentStart 0

/-- Only a comment may follow on its line. -/
def documentEnd : Scan Unit := do
  closeDocument
  skipMany 3
  push .documentEnd 0
  discard (skipToLineEnd isBlank)
  unless isBreakOrEnd (← peek) do failure

/-- Flow collections may be nested so often. -/
def nestingLimit : Nat := 255

def flowStart (token : Token) : Scan Unit := do
  markKey
  indentByOne
  if (← get).flowDepth = nestingLimit then failure
  modify fun s => { s with
    keyStart := none
    outerKeyStarts := s.keyStart :: s.outerKeyStarts
    isKeyAllowed := true
    isMapMarked := s.isMapMarked || token == .flowMapStart
    openMaps := if token = .flowMapStart then s.openMaps else false :: s.openMaps }
  let col := (← get).col
  skip
  discard (skipToLineEnd isBlank)
  push token col

/-- A map without braces ends with its element. -/
def closeMap : Scan Unit := do
  let s ← get
  if s.openMaps.head? = some true then
    set { s with isMapMarked := false, openMaps := false :: s.openMaps.tail }
    push .flowMapEnd s.col

def flowEnd (token : Token) : Scan Unit := do
  dropKey
  modify fun s => match s.outerKeyStarts with
    | keyStart :: outerKeyStarts => { s with keyStart, outerKeyStarts }
    | [] => s
  allowKey false
  if token = .flowListEnd then
    closeMap
    modify fun s => { s with openMaps := s.openMaps.tail }
  let col := (← get).col
  skip
  discard (skipToLineEnd isBlank)
  modify fun s => if s.isInFlow then { s with colonIndex := some s.index } else s
  push token col

def flowEntry : Scan Unit := do
  dropKey
  allowKey true
  closeMap
  let col := (← get).col
  skip
  discard (skipToLineEnd isBlank)
  push .flowEntry col

def blockEntry : Scan Unit := do
  let s ← get
  if s.isInFlow || !s.isKeyAllowed then failure
  let isAfterProperty := s.tokens.getLast?.any fun (token, col) => token.isProperty && col = 0
  if s.col = 0 && -1 < s.indent && isAfterProperty then failure
  skip
  openBlock s.col none .blockListStart
  let blanks ← skipToLineEnd isBlank
  if blanks.contains '\t' && (← peek) = '-' && isGap (← peekAt 1) then failure
  -- A comment has just been passed, or there is none.
  if isBreak (← peek) || isFlow (← peek) then indentByOne
  dropKey
  allowKey true
  push .blockEntry s.col

/-- Spaces, lines and comments after a question mark; there has to be at least one space or line
break. -/
def skipAfterMark : (room : Nat) → (found : Bool) → Scan Unit
  | 0, _ => failure
  | room + 1, found => do
    match ← peek with
    | ' ' =>
      skipBlank
      skipAfterMark room true
    | '\n' | '\r' =>
      skipBreak
      unless (← get).isInFlow do allowKey true
      skipAfterMark room true
    | '#' =>
      skipComment
      skipAfterMark room found
    | _ => unless found do failure

def keyMark : Scan Unit := do
  let s ← get
  if s.isInFlow then modify fun s => { s with isMapMarked := true }
  else
    unless s.isKeyAllowed do failure
    openBlock s.col none .blockMapStart
  dropKey
  allowKey !s.isInFlow
  skip
  skipAfterMark (← room) false
  if (← peek) = '\t' then failure
  push .key s.col

/-- After a colon and a tab there may be no entry and no word. -/
def skipTabsAfterColon : Scan Unit := do
  if (← peek) = '\t' then
    let blanks ← skipToLineEnd isBlank
    let c ← peek
    if !blanks.contains ' ' && (c == '-' || Text.isAlphanumeric c) then failure

/-- The colon after a key that has begun at `start`. -/
def valueAfterKey (start : KeyStart) (line : Nat) (opensMap : Bool) : Scan Unit := do
  insert start.place .key start.col
  if opensMap then
    if start.line < line then failure
    insert start.place .flowMapStart start.col
  openBlock start.col (some start.place) .blockMapStart
  indentByOne
  modify fun s => { s with keyStart := none, isKeyAllowed := false }

/-- The colon after a key with a question mark, or after none. -/
def valueAlone (col : Nat) (opensMap : Bool) : Scan Unit := do
  if opensMap then push .flowMapStart col
  let isInFlow := (← get).isInFlow
  unless isInFlow do
    unless (← get).isKeyAllowed do failure
    openBlock col none .blockMapStart
  indentByOne
  allowKey !isInFlow

def valueMark : Scan Unit := do
  let s ← get
  let opensMap := !s.openMaps.isEmpty && !s.isMapMarked
  if opensMap then set { s with openMaps := true :: s.openMaps.tail }
  skip
  skipTabsAfterColon
  match s.keyStart with
  | some start => valueAfterKey start s.line opensMap
  | none => valueAlone s.col opensMap
  push .value s.col

/-! ## All tokens -/

/-- Whether a colon is an indicator: a blank follows, or in flow collections an indicator, or a key
in quotes or brackets has just ended. -/
def isValueMark (next : Char) : Scan Bool := do
  let s ← get
  return isGap next || (s.isInFlow && (isFlow next || s.colonIndex = some s.index))

/-- The token at the current place, which is not the end. -/
def token : Scan Unit := do
  let s ← get
  let c ← peek
  let next ← peekAt 1
  if s.col = 0 && c = '%' then directiveLine
  else if s.col = 0 && (← startsWith "---".toList) then documentStart
  else if s.col = 0 && (← startsWith "...".toList) then documentEnd
  else if s.col < s.indent then failure
  else match c with
    | '[' => flowStart .flowListStart
    | '\x7b' => flowStart .flowMapStart
    | ']' => flowEnd .flowListEnd
    | '\x7d' => flowEnd .flowMapEnd
    | ',' => flowEntry
    | '*' => node (return .alias (← anchorName))
    | '&' => node (return .anchor (← anchorName))
    | '!' => node tag
    | '\'' => quotedNode '\''
    | '"' => quotedNode '"'
    | '-' => if isGap next then blockEntry else node plainScalar
    | '?' => if isGap next then keyMark else node plainScalar
    | ':' => if ← isValueMark next then valueMark else node plainScalar
    | '|' => if s.isInFlow then node plainScalar else blockNode true
    | '>' => if s.isInFlow then node plainScalar else blockNode false
    | '%' | '@' | '\x60' => failure
    | _ => node plainScalar

def finish : Scan Unit := do
  modify fun s => if s.col = 0 then s else { s with line := s.line + 1, col := 0 }
  dropKey
  if (← get).outerKeyStarts.any (·.any (·.isRequired)) then failure
  unroll (-1)

def all : (room : Nat) → Scan Unit
  | 0 => failure
  | room + 1 => do
    skipToToken (← Scan.room)
    dropOldKey
    unroll (← get).col
    if isEnd (← peek) then finish
    else
      token
      all room

end Scan

/-- The tokens of a text, or none if it cannot be taken apart. A NUL ends the text. -/
def tokens? (text : List Char) : Option (List Token) := do
  let cs := text.takeWhile (!isEnd ·)
  let ((), s) ← (Scan.all (cs.length + 2)).run { rest := cs }
  return s.tokens.map (·.1)

end WorkerMemory.Yaml
