import WorkerMemory.Metric
import WorkerMemory.Text.Split
import WorkerMemory.Text.Width
import WorkerMemory.Time.Rfc3339

/-! # Metrics as a table -/

namespace WorkerMemory.Table

open Text

/-! ## Cells -/

/-- Where a colour code stands in a text: the codes run from an escape character and a bracket to
the letter `m`. -/
inductive CodePlace where
  | outside
  | escape
  | inside

/-- The characters of colour codes after the escape character. They take no room on a screen. -/
def hiddenFrom : CodePlace → List Char → Nat
  | _, [] => 0
  | .outside, c :: cs => hiddenFrom (if c = '\x1b' then .escape else .outside) cs
  | .escape, c :: cs => if c = '[' then 1 + hiddenFrom .inside cs else hiddenFrom .outside cs
  | .inside, c :: cs => 1 + hiddenFrom (if c = 'm' then .outside else .inside) cs

def lineWidth (line : List Char) : Nat := width line - hiddenFrom .outside line

/-- A cell has a line for each line of its text. -/
abbrev Cell := List (List Char)

def cell (text : List Char) : Cell := lines text

def cellWidth (c : Cell) : Nat := (c.map lineWidth).foldl max 0

/-! ## Layout -/

abbrev Row := List Cell

/-- The widest cell of each column. -/
def columnWidths : List Row → List Nat
  | [] => []
  | [row] => row.map cellWidth
  | row :: rows => List.zipWith max (row.map cellWidth) (columnWidths rows)

def rule (widths : List Nat) : List Char :=
  widths.flatMap (fun n => '+' :: List.replicate (n + 2) '-') ++ ['+', '\n']

def padTo (n : Nat) (line : List Char) : List Char :=
  line ++ List.replicate (n - lineWidth line) ' '

/-- One screen line of a row. Cells that have no more lines are left blank. -/
def rowLine (widths : List Nat) (row : Row) (i : Nat) : List Char :=
  (List.zipWith (fun n c => ['|', ' '] ++ padTo n (c.getD i []) ++ [' ']) widths row).flatten ++
    ['|', '\n']

def rowText (widths : List Nat) (row : Row) : List Char :=
  let height := (row.map List.length).foldl max 1
  (List.range height).flatMap (rowLine widths row)

/-- Rules stand above and below the title and at the end. -/
def layout (title : Row) (rows : List Row) : List Char :=
  let widths := columnWidths (title :: rows)
  rule widths ++ rowText widths title ++ rule widths ++ rows.flatMap (rowText widths) ++
    rule widths

/-! ## Rows of metrics -/

def title : Row :=
  ["WORKER", "PID", "MNEMONIC", "RSS_KB", "OBSERVED_AT"].map fun s => cell s.toList

def row (m : Metric) : Row := [
  cell (Numeral.ofNat m.worker.id.toNat),
  cell (Numeral.ofInt m.worker.pid.toInt),
  cell (if m.worker.mnemonic.isEmpty then ['-'] else m.worker.mnemonic.toList),
  cell (m.stat.elim ['g', 'o', 'n', 'e'] fun s => Numeral.ofNat s.kb.toNat),
  cell (m.stat.elim ['-'] fun s =>
    Rfc3339.date s.observedAt.date ++ ' ' :: Rfc3339.timeOfDay s.observedAt)]

/-- By ascending worker id; metrics of one id keep their order. -/
def sorted (metrics : List Metric) : List Metric :=
  metrics.mergeSort fun a b => a.worker.id ≤ b.worker.id

def format (metrics : List Metric) : String :=
  if metrics.isEmpty then "No workers registered."
  else String.ofList (layout title ((sorted metrics).map row))

end WorkerMemory.Table
