import WorkerMemory.Settings.Loose

/-! # TOML: building tables

Lines define tables piece by piece. A table may be named by keys inside its parent's lines or by
headers, but not by both, and nothing is defined twice. -/

namespace WorkerMemory.Toml

/-- How a table has come about. -/
inductive Origin where
  /-- By a header of its own. -/
  | header
  /-- By the header of a table inside it. -/
  | implied
  /-- By keys with points between them. -/
  | dotted
  deriving DecidableEq, Repr

inductive Item where
  /-- Complete; inline tables are too. -/
  | value (v : Loose)
  | table (origin : Origin) (entries : List (String × Item))
  /-- The tables under one repeated header, the last one first. -/
  | tables (elements : List (List (String × Item)))

abbrev Entries := List (String × Item)

namespace Entries

def replace (entries : Entries) (key : String) (item : Item) : Entries :=
  (key, item) :: entries.filter (·.1 != key)

/-- Applies a change to the table that a path leads to, and makes the tables on the way that are
missing. Of repeated tables the last one is meant. -/
def change (via : Origin) (f : Origin → Entries → Option Entries) :
    (path : List String) → Origin → Entries → Option Entries
  | [], origin, entries => f origin entries
  | key :: path, _, entries =>
    match entries.lookup key with
    | none => do
      let inner ← change via f path via []
      return (key, .table via inner) :: entries
    | some (.table origin inner) => do
      -- Keys with points do not reach into tables that have headers.
      if via = .dotted ∧ origin = .header then failure
      let inner ← change via f path origin inner
      return entries.replace key (.table origin inner)
    | some (.tables (last :: others)) => do
      let last ← change via f path .header last
      return entries.replace key (.tables (last :: others))
    | some (.tables []) | some (.value _) => none

def addNew (key : String) (item : Item) (entries : Entries) : Option Entries :=
  match entries.lookup key with
  | none => some ((key, item) :: entries)
  | some _ => none

/-- Adds a value to the table that all keys but the last lead to. -/
def add (keys : List String) (v : Loose) (entries : Entries) : Option Entries := do
  let key ← keys.getLast?
  let path := keys.dropLast
  let put (origin : Origin) (entries : Entries) : Option Entries :=
    if path.isEmpty || origin = .dotted then entries.addNew key (.value v) else none
  change .dotted put path .header entries

/-- Opens a table by its header. -/
def openTable (keys : List String) (entries : Entries) : Option Entries := do
  let key ← keys.getLast?
  let put (_ : Origin) (entries : Entries) : Option Entries :=
    match entries.lookup key with
    | some (.table .implied inner) => some (entries.replace key (.table .header inner))
    | _ => entries.addNew key (.table .header [])
  change .implied put keys.dropLast .header entries

/-- Opens one more table under a repeated header. -/
def openElement (keys : List String) (entries : Entries) : Option Entries := do
  let key ← keys.getLast?
  let put (_ : Origin) (entries : Entries) : Option Entries :=
    match entries.lookup key with
    | some (.tables elements) => some (entries.replace key (.tables ([] :: elements)))
    | _ => entries.addNew key (.tables [[]])
  change .implied put keys.dropLast .header entries

end Entries

mutual

def Item.toLoose : Item → Loose
  | .value v => v
  | .table _ entries => .table (toLooseEntries entries)
  | .tables elements => .list (toLooseTables elements).reverse

def toLooseEntries : List (String × Item) → List (String × Loose)
  | [] => []
  | (key, item) :: entries => (key, item.toLoose) :: toLooseEntries entries

def toLooseTables : List (List (String × Item)) → List Loose
  | [] => []
  | entries :: elements => .table (toLooseEntries entries) :: toLooseTables elements

end

end WorkerMemory.Toml
