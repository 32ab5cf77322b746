import WorkerMemory.Settings
import WorkerMemory.Settings.Loose

/-! # Layers of settings

Sources are laid over each other; what is set later counts. -/

namespace WorkerMemory

open Text

/-- A value with the source it comes from. A table has none, for sources may share it. -/
structure Entry where
  value : Loose
  origin : Option String

/-- The entries of all sources so far, by name in lower case. -/
abbrev Layers := List (String × Entry)

/-! ## Names of entries -/

/-- The first step from an entry into its value. -/
inductive KeyStep where
  | member
  | index
  deriving DecidableEq, Repr

/-- The name of an entry, or of something inside it, such as `a.b` or `a[0]`. -/
structure SettingKey where
  name : String
  step : Option KeyStep
  deriving DecidableEq, Repr

namespace SettingKey

def isNameChar (c : Char) : Bool :=
  c.isAlphanum || c == ' ' || c == '_' || c == '-'

/-- The text after a whole number in brackets, the opening one already taken. -/
def afterIndex? (cs : List Char) : Option (List Char) :=
  let cs := cs.dropWhile (fun c => c == ' ' || c == '\t')
  let digits := match cs with
    | '-' :: cs => cs
    | cs => cs
  let rest := (digits.dropWhile Char.isDigit).dropWhile (fun c => c == ' ' || c == '\t')
  match digits.head?, rest with
  | some d, ']' :: rest => if d.isDigit then some rest else none
  | _, _ => none

/-- Whether a text is a sequence of steps. -/
def isSteps : (room : Nat) → List Char → Bool
  | _, [] => true
  | 0, _ => false
  | room + 1, '.' :: cs =>
    !(cs.takeWhile isNameChar).isEmpty && isSteps room (cs.dropWhile isNameChar)
  | room + 1, '[' :: cs => (afterIndex? cs).any (isSteps room)
  | _, _ => false

/-- A key that does not name something inside an entry is a name as a whole. -/
def parse (key : String) : SettingKey :=
  let cs := asciiLower key.toList
  let name := cs.takeWhile isNameChar
  let rest := cs.dropWhile isNameChar
  if name.isEmpty || !isSteps rest.length rest then { name := String.ofList cs, step := none }
  else {
    name := String.ofList name
    step := match rest with
      | '.' :: _ => some .member
      | '[' :: _ => some .index
      | _ => none }

end SettingKey

/-! ## Laying over -/

namespace Layers

def get? (layers : Layers) (name : String) : Option Entry := layers.lookup name

def put (layers : Layers) (name : String) (entry : Entry) : Layers :=
  (name, entry) :: layers.filter (·.1 != name)

/-- A table goes into the entry's table; an empty one does not replace another value. -/
def putTable (layers : Layers) (name : String) (entries : List (String × Loose)) : Layers :=
  let merged (old : List (String × Loose)) : Entry :=
    { value := .table (entries ++ old), origin := none }
  match layers.get? name with
  | some { value := .table old, .. } => layers.put name (merged old)
  | some _ => if entries.isEmpty then layers else layers.put name (merged [])
  | none => layers.put name (merged [])

/-- Something inside an entry makes the entry a table or a list. -/
def putInside (layers : Layers) (name : String) (step : KeyStep) (v : Loose) : Layers :=
  match step, layers.get? name with
  | .member, some { value := .table old, .. } =>
    layers.put name { value := .table (("", v) :: old), origin := none }
  | .member, _ => layers.put name { value := .table [("", v)], origin := none }
  | .index, some { value := .list old, origin } =>
    layers.put name { value := .list (v :: old), origin }
  | .index, _ => layers.put name { value := .list [v], origin := none }

def set (layers : Layers) (origin key : String) (v : Loose) : Layers :=
  let key := SettingKey.parse key
  match key.step, v with
  | none, .table entries => layers.putTable key.name entries
  | none, v => layers.put key.name { value := v, origin := some origin }
  | some step, v => layers.putInside key.name step v

def setAll (layers : Layers) (origin : String) (entries : List (String × Loose)) : Layers :=
  entries.foldl (fun layers (key, v) => layers.set origin key v) layers

/-! ## Reading off the settings -/

def misfit (name : String) (entry : Entry) (m : Loose.Misfit) : LoadError :=
  .misfit { found := m.found, expected := m.expected, key := name, origin := entry.origin }

/-- The value of one setting, or its default if no source has it. -/
def read {α : Type} (layers : Layers) (name : String) (default : α)
    (convert : Loose → Except Loose.Misfit α) : Except LoadError α :=
  match layers.get? name with
  | none => .ok default
  | some entry => (convert entry.value).mapError (misfit name entry)

def settings (layers : Layers) : Except LoadError Settings := do
  let default : Settings := {}
  return {
    program := ← layers.read "ps_program" default.program Loose.toText
    intervalSecs := ← layers.read "interval_secs" default.intervalSecs Loose.toCount
    storage := ← layers.read "storage" default.storage Loose.toText
    logLevel := ← layers.read "log_level" default.logLevel Loose.toOptionalText
    logFile := ← layers.read "log_file" default.logFile Loose.toOptionalText }

end Layers

/-! ## The environment -/

namespace Environment

def keyStart : List Char := "worker_metrics_".toList

def origin : String := "the environment"

/-- The key a variable sets, whatever the case of its letters. -/
def key? (variableName : String) : Option String :=
  let cs := lower variableName.toList
  if keyStart.isPrefixOf cs then some (String.ofList (cs.drop keyStart.length)) else none

def entries (environment : List (String × String)) : List (String × Loose) :=
  environment.filterMap fun (name, value) => (key? name).map fun key => (key, Loose.guess value)

end Environment

end WorkerMemory
