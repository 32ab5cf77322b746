import WorkerMemory.Proofs.Last
import WorkerMemory.Proofs.Text.Numeral
import WorkerMemory.Proofs.Text.Utf8
import WorkerMemory.Sampling.Row

/-! # Which rows count

Of each process the last row that can be read. The rest of the output leaves no trace, and neither
does the order of the rows of different processes.
-/

namespace WorkerMemory.Row

open Text

/-- The row in one line of bytes, if it can be read. -/
def ofBytes? (line : List UInt8) : Option (Pid × KiB) := (read (Utf8.decodeLossy line)).toOption

/-- The rows in some lines. -/
def within (bytes : List UInt8) : List (Pid × KiB) :=
  (bytes.splitOn Utf8.lineFeed).filterMap ofBytes?

/-- The rows after the first line. -/
def afterFirst (output : List UInt8) : List (Pid × KiB) :=
  ((output.splitOn Utf8.lineFeed).drop 1).filterMap ofBytes?

/-- The memory in the last row of a process. -/
def lastKb? (rows : List (Pid × KiB)) (pid : Pid) : Option KiB :=
  (rows.filter (·.1 = pid)).getLast?.map (·.2)

@[simp]
theorem lastKb?_nil (pid : Pid) : lastKb? [] pid = none := rfl

theorem lastKb?_append (rows rows' : List (Pid × KiB)) (pid : Pid) :
    lastKb? (rows ++ rows') pid = (lastKb? rows' pid).or (lastKb? rows pid) := by
  unfold lastKb?
  rw [getLast?_filter_append (fun row : Pid × KiB => row.1 = pid), Option.map_or]

theorem lastKb?_cons (row : Pid × KiB) (rows : List (Pid × KiB)) (pid : Pid) :
    lastKb? (row :: rows) pid =
      (lastKb? rows pid).or (if row.1 = pid then some row.2 else none) := by
  unfold lastKb?
  rw [getLast?_filter_cons (fun row : Pid × KiB => row.1 = pid), Option.map_or]
  split <;> rfl

theorem lastKb?_eq_none_iff {rows : List (Pid × KiB)} {pid : Pid} :
    lastKb? rows pid = none ↔ ∀ row ∈ rows, row.1 ≠ pid := by
  rw [lastKb?, Option.map_eq_none_iff]
  exact getLast?_filter_eq_none_iff

theorem lastKb?_eq_some_iff_append {rows : List (Pid × KiB)} {pid : Pid} {kb : KiB} :
    lastKb? rows pid = some kb ↔
      ∃ before after, rows = before ++ (pid, kb) :: after ∧ ∀ later ∈ after, later.1 ≠ pid := by
  rw [lastKb?, Option.map_eq_some_iff]
  simp only [getLast?_filter_eq_some_iff]
  constructor
  · rintro ⟨row, ⟨before, after, hrows, rfl, hafter⟩, rfl⟩
    exact ⟨before, after, hrows, hafter⟩
  · rintro ⟨before, after, hrows, hafter⟩
    exact ⟨(pid, kb), ⟨before, after, hrows, rfl, hafter⟩, rfl⟩

/-! ## Reading a row -/

theorem toOption_read_congr {line line' : List Char} (same : fields line = fields line') :
    (read line).toOption = (read line').toOption := by
  unfold read
  rw [same]
  split
  · split <;> rfl
  · rfl

theorem toOption_read_eq_some {line : List Char} {row : Pid × KiB}
    (h : (read line).toOption = some row) :
    ∃ pidText kbText, fields line = [pidText, kbText] ∧
      (Numeral.int64? pidText).isSome ∧ (Numeral.uint64? kbText).isSome := by
  unfold read at h
  split at h
  · next pidText kbText hfields =>
    refine ⟨pidText, kbText, hfields, ?_⟩
    split at h
    · next pid kb hpid hkb => exact ⟨by rw [hpid]; rfl, by rw [hkb]; rfl⟩
    · contradiction
    · contradiction
  · contradiction

theorem toOption_read_dropCarriageReturn (line : List Char) :
    (read (dropCarriageReturn line)).toOption = (read line).toOption :=
  toOption_read_congr (fields_dropCarriageReturn line)

theorem ofBytes?_of_damaged {line : List UInt8}
    (damaged : Utf8.replacement ∈ Utf8.decodeLossy line) : ofBytes? line = none := by
  rw [Option.eq_none_iff_forall_ne_some]
  intro row hrow
  obtain ⟨pidText, kbText, hfields, hpid, hkb⟩ := toOption_read_eq_some hrow
  obtain ⟨field, hfield, hmem⟩ := exists_mem_fields damaged (by decide)
  rw [hfields, List.mem_cons, List.mem_singleton] at hfield
  obtain rfl | rfl := hfield
  · obtain ⟨pid, hpid⟩ := Option.isSome_iff_exists.mp hpid
    obtain ⟨z, hz, -⟩ := Option.bind_eq_some_iff.mp hpid
    exact absurd (Numeral.mem_of_signed? hz _ hmem) (by decide)
  · obtain ⟨kb, hkb⟩ := Option.isSome_iff_exists.mp hkb
    obtain ⟨n, hn, -⟩ := Option.bind_eq_some_iff.mp hkb
    exact absurd (Numeral.mem_of_unsigned? hn _ hmem) (by decide)

/-! ## Reading the output -/

theorem rows_readAll (output : List Char) :
    (readAll output).filterMap Except.toOption =
      ((splitOn '\n' output).drop 1).filterMap fun line => (read line).toOption := by
  have hne : splitOn '\n' output ≠ [] := splitWhere_ne_nil _ output
  obtain ⟨parts, last, hparts⟩ : ∃ parts last, splitOn '\n' output = parts ++ [last] :=
    ⟨_, _, (List.dropLast_concat_getLast hne).symm⟩
  unfold readAll
  rw [lines_eq hparts, hparts, List.filterMap_map]
  cases parts with
  | nil => split <;> rfl
  | cons first parts =>
    simp only [List.map_cons, List.cons_append, List.drop_succ_cons, List.drop_zero,
      List.filterMap_append, List.filterMap_map, Function.comp_def,
      toOption_read_dropCarriageReturn]
    congr 1
    split
    · next h => subst h; rfl
    · rfl

theorem getElem?_foldl_record (entries : List (Except RowFault (Pid × KiB))) (memory : Samples)
    (pid : Pid) :
    (entries.foldl record memory)[pid]? =
      (lastKb? (entries.filterMap Except.toOption) pid).or memory[pid]? := by
  induction entries generalizing memory with
  | nil => rfl
  | cons entry entries ih =>
    rw [List.foldl_cons, ih]
    cases entry with
    | error fault => rfl
    | ok row =>
      have hrows : (Except.ok row :: entries).filterMap Except.toOption =
        row :: entries.filterMap Except.toOption := rfl
      rw [hrows, lastKb?_cons, Option.or_assoc, record, Std.TreeMap.getElem?_insert]
      by_cases h : row.1 = pid <;> simp [h]

theorem getElem?_samples (output : List UInt8) (pid : Pid) :
    (samples (Utf8.decodeLossy output))[pid]? = lastKb? (afterFirst output) pid := by
  unfold samples afterFirst
  rw [getElem?_foldl_record, rows_readAll, Utf8.splitOn_decodeLossy, ← List.map_drop,
    List.filterMap_map, Std.TreeMap.getElem?_emptyc, Option.or_none]
  rfl

/-! ## Lines without effect -/

theorem within_cons {line : List UInt8} (single : Utf8.lineFeed ∉ line) (after : List UInt8) :
    within (line ++ Utf8.lineFeed :: after) = (ofBytes? line).toList ++ within after := by
  unfold within
  rw [List.splitOn_append_cons_self_of_not_mem single, List.filterMap_cons]
  cases ofBytes? line <;> rfl

theorem afterFirst_append (before after : List UInt8) :
    afterFirst (before ++ Utf8.lineFeed :: after) = afterFirst before ++ within after := by
  have hne := List.splitOn_ne_nil Utf8.lineFeed before
  obtain ⟨first, rest, hbefore⟩ := List.exists_cons_of_ne_nil hne
  unfold afterFirst within
  rw [List.splitOn_append_cons_self, hbefore, List.cons_append, List.drop_one, List.drop_one,
    List.tail_cons, List.tail_cons, List.filterMap_append]

/-- The last row of a process that matters. -/
def Counts (matters : Pid → Prop) (line after : List UInt8) : Prop :=
  ∃ pid kb, ofBytes? line = some (pid, kb) ∧ matters pid ∧ lastKb? (within after) pid = none

theorem lastKb?_without {matters : Pid → Prop} {line after : List UInt8}
    (single : Utf8.lineFeed ∉ line) (idle : ¬ Counts matters line after) (before : List UInt8)
    {pid : Pid} (hpid : matters pid) :
    lastKb? (afterFirst (before ++ Utf8.lineFeed :: (line ++ Utf8.lineFeed :: after))) pid =
      lastKb? (afterFirst (before ++ Utf8.lineFeed :: after)) pid := by
  simp only [afterFirst_append, within_cons single, lastKb?_append]
  congr 1
  -- The line is no row, or one of another process, or a later row replaces it.
  cases hrow : ofBytes? line with
  | none => exact Option.or_none
  | some row =>
    rw [Option.toList_some, lastKb?_cons, lastKb?_nil, Option.none_or]
    cases hlater : lastKb? (within after) pid with
    | some kb => rfl
    | none =>
      have hother : row.1 ≠ pid := by
        rintro rfl
        exact idle ⟨row.1, row.2, hrow, hpid, hlater⟩
      rw [if_neg hother, Option.or_none]

theorem lastKb?_swapped {one two : List UInt8} (single : Utf8.lineFeed ∉ one)
    (single' : Utf8.lineFeed ∉ two)
    (apart : ∀ row ∈ ofBytes? one, ∀ row' ∈ ofBytes? two, row.1 ≠ row'.1)
    (before after : List UInt8) (pid : Pid) :
    lastKb? (afterFirst (before ++ Utf8.lineFeed ::
        (one ++ Utf8.lineFeed :: (two ++ Utf8.lineFeed :: after)))) pid =
      lastKb? (afterFirst (before ++ Utf8.lineFeed ::
        (two ++ Utf8.lineFeed :: (one ++ Utf8.lineFeed :: after)))) pid := by
  simp only [afterFirst_append, within_cons single, within_cons single', lastKb?_append]
  congr 1
  rw [Option.or_assoc, Option.or_assoc]
  congr 1
  cases hone : ofBytes? one with
  | none => simp
  | some row =>
    cases htwo : ofBytes? two with
    | none => simp
    | some row' =>
      have hne : row.1 ≠ row'.1 := apart row hone row' htwo
      simp only [Option.toList_some, lastKb?_cons, lastKb?_nil, Option.none_or]
      by_cases h : row.1 = pid
      · have hother : row'.1 ≠ pid := fun h' => hne (h.trans h'.symm)
        simp [h, hother]
      · simp [h]

end WorkerMemory.Row
