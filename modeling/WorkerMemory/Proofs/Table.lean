import Mathlib.Data.List.Infix
import WorkerMemory.Proofs.Table.Order
import WorkerMemory.Proofs.Text.Numeral
import WorkerMemory.Proofs.Text.Split

/-! # What a table shows

Every line of every cell stands in the text of its row, and the rows stand in the order of their
workers' ids.
-/

namespace WorkerMemory.Table

open Text

/-! ## Widths -/

theorem length_columnWidths {rows : List Row} {n : Nat} (hne : rows ≠ [])
    (h : ∀ row ∈ rows, row.length = n) : (columnWidths rows).length = n := by
  fun_induction columnWidths rows with
  | case1 => contradiction
  | case2 row => simpa using h row List.mem_cons_self
  | case3 row rows hrows ih =>
    rw [List.forall_mem_cons] at h
    have hrest := ih (fun heq => hrows heq) h.2
    simp [h.1, hrest]

/-! ## Cells in their rows -/

theorem infix_rowLine {widths : List Nat} {row : Row} {c : Cell} (hc : c ∈ row)
    (hwidths : row.length ≤ widths.length) (i : Nat) : c.getD i [] <:+: rowLine widths row i := by
  obtain ⟨k, hk, rfl⟩ := List.getElem_of_mem hc
  let framed (n : Nat) (c : Cell) : List Char := ['|', ' '] ++ padTo n (c.getD i []) ++ [' ']
  have hk' : k < (List.zipWith framed widths row).length := by
    rw [List.length_zipWith]
    omega
  have hframed : framed widths[k] row[k] ∈ List.zipWith framed widths row := by
    rw [← List.getElem_zipWith (h := hk')]
    exact List.getElem_mem hk'
  have hpadded : row[k].getD i [] <:+: padTo widths[k] (row[k].getD i []) :=
    (List.prefix_append _ _).isInfix
  have hcell : row[k].getD i [] <:+: framed widths[k] row[k] :=
    hpadded.trans ⟨['|', ' '], [' '], rfl⟩
  exact hcell.trans ((List.infix_of_mem_flatten hframed).trans (List.prefix_append _ _).isInfix)

theorem infix_rowText {widths : List Nat} {row : Row} {c : Cell} {line : List Char} (hc : c ∈ row)
    (hline : line ∈ c) (hwidths : row.length ≤ widths.length) : line <:+: rowText widths row := by
  obtain ⟨i, hi, rfl⟩ := List.getElem_of_mem hline
  have hheight : c.length ≤ (row.map List.length).foldl max 1 := by
    rw [List.foldl_max]
    exact Nat.le_trans (List.le_max?_getD_of_mem (List.mem_map_of_mem hc)) (Nat.le_max_right _ _)
  have hcell := infix_rowLine hc hwidths i
  rw [List.getD_eq_getElem?_getD, List.getElem?_eq_getElem hi, Option.getD_some] at hcell
  have hi' : i ∈ List.range ((row.map List.length).foldl max 1) :=
    List.mem_range.mpr (Nat.lt_of_lt_of_le hi hheight)
  exact hcell.trans (List.infix_of_mem_flatten (List.mem_map_of_mem hi'))

/-! ## Whole tables -/

/-- A text shows a worker's ids and, line by line, its mnemonic. A dash stands for none. -/
structure Shows (text : List Char) (w : Worker) : Prop where
  id : Numeral.ofNat w.id.toNat <:+: text
  pid : Numeral.ofInt w.pid.toInt <:+: text
  mnemonic : ∀ line ∈ lines (if w.mnemonic.isEmpty then ['-'] else w.mnemonic.toList),
    line <:+: text

/-- A table with one row for each metric, in the order of the workers' ids. -/
def Lists (text : String) (metrics : List Metric) : Prop :=
  ∃ (rows : List Metric) (widths : List Nat),
    rows.Perm metrics ∧ rows.Pairwise (fun m m' => m.worker.id < m'.worker.id) ∧
    text.toList = rule widths ++ rowText widths title ++ rule widths ++
      rows.flatMap (fun m => rowText widths (row m)) ++ rule widths ∧
    ∀ m ∈ rows, Shows (rowText widths (row m)) m.worker

theorem shows_rowText (m : Metric) {widths : List Nat} (hwidths : widths.length = 5) :
    Shows (rowText widths (row m)) m.worker := by
  have hshown {text line : List Char} (hcell : cell text ∈ row m) (hline : line ∈ lines text) :
      line <:+: rowText widths (row m) :=
    infix_rowText hcell hline (Nat.le_of_eq hwidths.symm)
  have hnumeral (z : Int) : Numeral.ofInt z ∈ lines (Numeral.ofInt z) := by
    rw [lines_of_notMem (Numeral.notMem_ofInt (by decide) (by decide) z) (Numeral.ofInt_ne_nil z)]
    exact List.mem_singleton_self _
  have hid : cell (Numeral.ofInt m.worker.id.toNat) ∈ row m := List.mem_cons_self
  have hpid : cell (Numeral.ofInt m.worker.pid.toInt) ∈ row m :=
    List.mem_cons_of_mem _ List.mem_cons_self
  have hmnemonic :
      cell (if m.worker.mnemonic.isEmpty then ['-'] else m.worker.mnemonic.toList) ∈ row m :=
    List.mem_cons_of_mem _ (List.mem_cons_of_mem _ List.mem_cons_self)
  exact ⟨hshown hid (hnumeral _), hshown hpid (hnumeral _), fun _ hline => hshown hmnemonic hline⟩

theorem toList_format {metrics : List Metric} (hne : metrics ≠ []) :
    let widths := columnWidths (title :: (sorted metrics).map row)
    widths.length = 5 ∧
    (format metrics).toList = rule widths ++ rowText widths title ++ rule widths ++
      (sorted metrics).flatMap (fun m => rowText widths (row m)) ++ rule widths := by
  intro widths
  constructor
  · apply length_columnWidths (List.cons_ne_nil _ _)
    simp only [List.forall_mem_cons, List.forall_mem_map]
    exact ⟨rfl, fun _ _ => rfl⟩
  · rw [format, if_neg (by simpa using hne), String.toList_ofList, layout, List.flatMap_map]

theorem lists_format {metrics : List Metric} (hne : metrics ≠ [])
    (h : (metrics.map (·.worker.id)).Nodup) : Lists (format metrics) metrics := by
  obtain ⟨hwidths, htext⟩ := toList_format hne
  exact ⟨sorted metrics, _, perm_sorted metrics, pairwise_sorted h, htext, fun m _ =>
    shows_rowText m hwidths⟩

end WorkerMemory.Table
