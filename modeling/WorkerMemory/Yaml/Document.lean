import WorkerMemory.Settings.Loose
import WorkerMemory.Yaml.Tokens

/-! # YAML documents -/

namespace WorkerMemory.Yaml

open Text

/-! ## Scalars -/

/-- A sign may stand behind the mark of the base. -/
def inBase? (base : Nat) (cs : List Char) : Option Int64 :=
  let n? : Option Int := match cs with
    | '-' :: cs => (Numeral.naturalIn? base cs).map fun n => -(n : Int)
    | '+' :: cs => (Numeral.naturalIn? base cs).map Int.ofNat
    | cs => (Numeral.naturalIn? base cs).map Int.ofNat
  n?.bind Integer.int64?

def integer? : List Char → Option Int64
  | '0' :: 'x' :: cs => inBase? 16 cs
  | '0' :: 'o' :: cs => inBase? 8 cs
  | '+' :: cs => Numeral.int64? cs
  | cs => Numeral.int64? cs

/-- Spellings of infinity, and of not-a-number with a point in front. -/
def pointWords : List String := [
  ".inf", ".Inf", ".INF", "+.inf", "+.Inf", "+.INF", "-.inf", "-.Inf", "-.INF", ".nan", ".NAN"]

/-- A scalar that has no value counts as null, but not as a key. -/
abbrev Node := Option Loose

/-- A real number, if the scalar is one; inside, none if it has no value. -/
def real? (s : String) : Option (Option Loose) :=
  if pointWords.contains s then some none
  else if s = "NaN" || s.toList.any Char.isDigit then
    (Decimal.float? s.toList).map fun x => some (.float x)
  else none

/-- A plain scalar without a tag. Infinity is malformed. -/
def plainValue (s : String) : Option Loose :=
  match integer? s.toList with
  | some n => some (.int n)
  | none =>
    if s = "" || s = "~" || s = "null" then some .null
    else if s = "true" then some (.bool true)
    else if s = "false" then some (.bool false)
    else match real? s with
      | some x => x
      | none => some (.text s)

/-- The tags that the language itself defines. -/
def coreTags : String := "tag:yaml.org,2002:"

structure Tag where
  handle : String
  suffix : String

def taggedValue (tag : Tag) (s : String) : Option Node :=
  if tag.handle = coreTags then
    match tag.suffix with
    | "bool" => some (if s = "true" then some (.bool true)
      else if s = "false" then some (.bool false) else none)
    | "int" => some ((Numeral.int64? s.toList).map .int)
    | "float" => match real? s with
      | some x => x.map some
      | none => some none
    | "null" => some (if s = "~" || s = "null" then some .null else none)
    | _ => some (some (.text s))
  else some (some (.text s))

def scalarValue (isPlain : Bool) (tag : Option Tag) (s : String) : Option Node :=
  if isPlain then match tag with
    | some tag => taggedValue tag s
    | none => (plainValue s).map some
  else some (some (.text s))

/-! ## Maps -/

inductive Key where
  | text (name : String)
  | int (value : Int64)
  deriving DecidableEq

def Key.name : Key → String
  | text name => name
  | int value => toString value.toInt

def Key.ofLoose? : Loose → Option Key
  | .text name => some (text name)
  | .int n => some (int n)
  | _ => none

/-- Keys and values in turn make a map. Keys are text or integers and differ from each other. A key
without a value is passed over, so that the next node takes its place. -/
def pairUp : List Node → (key : Option Key) → (entries : List (Key × Loose)) →
    Option (List (Key × Loose))
  | [], _, entries => some entries
  | none :: nodes, none, entries => pairUp nodes none entries
  | some v :: nodes, none, entries => do pairUp nodes (some (← Key.ofLoose? v)) entries
  | v :: nodes, some key, entries =>
    if entries.any (·.1 == key) then none
    else pairUp nodes none (entries ++ [(key, v.getD .null)])

def mapOf (nodes : List Node) : Option Loose := do
  let entries ← pairUp nodes none []
  return .table (entries.map fun (key, v) => (key.name, v))

def listOf (nodes : List Node) : Loose := .list (nodes.map (·.getD .null))

/-! ## Nodes -/

/-- What is left of the tokens, and the anchors so far. A node has its number from its anchor on, and
its value once it is complete. -/
structure Composer where
  tokens : List Token
  tags : Option (String × String) := none
  anchors : List (String × Nat) := []
  values : List (Nat × Node) := []
  count : Nat := 0

abbrev Compose (α : Type) := StateT Composer Option α

namespace Compose

def peek : Compose (Option Token) := return (← get).tokens.head?

def skip : Compose Unit := modify fun s => { s with tokens := s.tokens.tail }

def nextIn (tokens : List Token) : Compose Bool := return (← peek).any (tokens.contains ·)

/-- A later anchor of the same name takes its place. -/
def register (name : String) : Compose Nat := do
  let s ← get
  set { s with anchors := (name, s.count) :: s.anchors, count := s.count + 1 }
  return s.count

/-- A handle between two exclamation marks has to be declared. -/
def resolveTag (handle suffix : String) : Compose Tag := do
  match (← get).tags.filter (·.1 == handle) with
  | some (_, meant) => return { handle := meant, suffix }
  | none =>
    if handle = "!!" then return { handle := coreTags, suffix }
    else if Scan.isNamedHandle handle then failure
    else return { handle, suffix }

def anchor? : Compose (Option Nat) := do
  match ← peek with
  | some (.anchor name) =>
    skip
    return some (← register name)
  | _ => return none

def tag? : Compose (Option Tag) := do
  match ← peek with
  | some (.tag handle suffix) =>
    skip
    return some (← resolveTag handle suffix)
  | _ => return none

/-- An anchor and a tag, in either order. -/
def properties : Compose (Option Nat × Option Tag) := do
  match ← anchor? with
  | some number => return (some number, ← tag?)
  | none =>
    let tag ← tag?
    return (← if tag.isSome then anchor? else pure none, tag)

def keep (number : Option Nat) (v : Node) : Compose Node := do
  match number with
  | some number => modify fun s => { s with values := (number, v) :: s.values }
  | none => pure ()
  return v

/-- A node that is still open has no value. -/
def aliased (name : String) : Compose Node := do
  let s ← get
  match s.anchors.lookup name with
  | some number => return (s.values.lookup number).join
  | none => failure

def empty : Node := some .null

/-- An anchor or a tag alone stands for an empty scalar. -/
def bare (number : Option Nat) (tag : Option Tag) : Compose Node := do
  if number.isNone && tag.isNone then failure
  match scalarValue true tag "" with
  | some v => return v
  | none => failure

mutual

/-- A node. Blocks may begin here if `inBlock` is set, and a list that is not indented if
`inEntry` is. -/
def node (inBlock inEntry : Bool) : (room : Nat) → Compose Node
  | 0 => failure
  | room + 1 => do
    match ← peek with
    | some (.alias name) =>
      skip
      aliased name
    | _ =>
      let (number, tag) ← properties
      match ← peek with
      | some .blockEntry =>
        if inEntry then keep number (some (listOf (← bareEntries room)))
        else keep number (← bare number tag)
      | some (.scalar isPlain text) =>
        skip
        let v ← (scalarValue isPlain tag text : Option Node)
        keep number v
      | some .flowListStart =>
        skip
        keep number (some (listOf (← flowEntries true room)))
      | some .flowMapStart =>
        skip
        let v ← (mapOf (← flowPairs true room) : Option Loose)
        keep number (some v)
      | some .blockListStart =>
        if inBlock then
          skip
          keep number (some (listOf (← blockEntries room)))
        else keep number (← bare number tag)
      | some .blockMapStart =>
        if inBlock then
          skip
          let v ← (mapOf (← blockPairs room) : Option Loose)
          keep number (some v)
        else keep number (← bare number tag)
      | _ => keep number (← bare number tag)

def blockEntries : (room : Nat) → Compose (List Node)
  | 0 => failure
  | room + 1 => do
    match ← peek with
    | some .blockEnd =>
      skip
      return []
    | some .blockEntry =>
      skip
      let v ← if ← nextIn [.blockEntry, .blockEnd] then pure empty else node true false room
      return v :: (← blockEntries room)
    | _ => failure

/-- A list as deep as the key before it. -/
def bareEntries : (room : Nat) → Compose (List Node)
  | 0 => failure
  | room + 1 => do
    match ← peek with
    | some .blockEntry =>
      skip
      let isEmpty ← nextIn [.blockEntry, .key, .value, .blockEnd]
      let v ← if isEmpty then pure empty else node true false room
      return v :: (← bareEntries room)
    | _ => return []

def blockPart : (room : Nat) → Compose Node
  | 0 => failure
  | room + 1 => do
    if ← nextIn [.key, .value, .blockEnd] then return empty else node true true room

def blockPairs : (room : Nat) → Compose (List Node)
  | 0 => failure
  | room + 1 => do
    match ← peek with
    | some .blockEnd =>
      skip
      return []
    | some .key =>
      skip
      let key ← blockPart room
      let v ← blockValue room
      return key :: v :: (← blockPairs room)
    | some .value =>
      let v ← blockValue room
      return empty :: v :: (← blockPairs room)
    | _ => failure

def blockValue : (room : Nat) → Compose Node
  | 0 => failure
  | room + 1 => do
    if ← nextIn [.value] then
      skip
      blockPart room
    else return empty

def flowValue (closing : Token) : (room : Nat) → Compose Node
  | 0 => failure
  | room + 1 => do
    if ← nextIn [.value] then
      skip
      if ← nextIn [.flowEntry, closing] then return empty else node false false room
    else return empty

def flowPairs (isFirst : Bool) : (room : Nat) → Compose (List Node)
  | 0 => failure
  | room + 1 => do
    if ← nextIn [.flowMapEnd] then
      skip
      return []
    unless isFirst do
      unless ← nextIn [.flowEntry] do failure
      skip
    match ← peek with
    | some .key =>
      skip
      let isEmpty ← nextIn [.value, .flowEntry, .flowMapEnd]
      let key ← if isEmpty then pure empty else node false false room
      let v ← flowValue .flowMapEnd room
      return key :: v :: (← flowPairs false room)
    | some .value =>
      let v ← flowValue .flowMapEnd room
      return empty :: v :: (← flowPairs false room)
    | some .flowMapEnd =>
      skip
      return []
    | _ =>
      let key ← node false false room
      return key :: empty :: (← flowPairs false room)

/-- An element of a flow list that is a map with one pair. -/
def flowPair : (room : Nat) → Compose Node
  | 0 => failure
  | room + 1 => do
    let isEmpty ← nextIn [.value, .flowEntry, .flowListEnd]
    let key ← if isEmpty then (do skip; pure empty) else node false false room
    let v ← flowValue .flowListEnd room
    match mapOf [key, v] with
    | some v => return some v
    | none => failure

def flowEntries (isFirst : Bool) : (room : Nat) → Compose (List Node)
  | 0 => failure
  | room + 1 => do
    if ← nextIn [.flowListEnd] then
      skip
      return []
    unless isFirst do
      unless ← nextIn [.flowEntry] do failure
      skip
    match ← peek with
    | some .flowListEnd =>
      skip
      return []
    | some .key =>
      skip
      let v ← flowPair room
      return v :: (← flowEntries false room)
    | _ =>
      let v ← node false false room
      return v :: (← flowEntries false room)

end

/-! ## Documents -/

def skipEnds : Compose Unit :=
  modify fun s => { s with tokens := s.tokens.dropWhile (· == .documentEnd) }

/-- Directives in front of a document; the last one decides about tags. True if there are any. -/
def directives : (room : Nat) → (seesVersion found : Bool) → Compose Bool
  | 0, _, found => return found
  | room + 1, seesVersion, found => do
    match ← peek with
    | some .versionDirective =>
      if seesVersion then failure
      skip
      modify fun s => { s with tags := none }
      directives room true true
    | some (.tagDirective handle meant) =>
      skip
      modify fun s => { s with tags := some (handle, meant) }
      directives room seesVersion true
    | _ => return found

def isContent : Token → Bool
  | .versionDirective | .tagDirective .. | .documentStart | .documentEnd => false
  | _ => true

/-- The only document, if there is one. -/
def document : Compose (Option Node) := do
  skipEnds
  if (← peek).isNone then return none
  let room := 4 * (← get).tokens.length + 4
  let hasDirectives ← directives room false false
  let isExplicit ← nextIn [.documentStart]
  if hasDirectives && !isExplicit then failure
  if isExplicit then skip
  let v ← if isExplicit && !(← peek).any isContent then pure empty else node true false room
  skipEnds
  unless (← get).tokens.isEmpty do failure
  return some v

end Compose

/-- The entries of a text, or none if it is malformed. A text without a document has no entries, and
one with a document has to be a map. -/
def parse? (text : String) : Option (List (String × Loose)) := do
  let tokens ← tokens? text.toList
  let (v, _) ← Compose.document.run { tokens }
  match v with
  | none => return []
  | some (some (.table entries)) => return entries
  | some _ => none

end WorkerMemory.Yaml
