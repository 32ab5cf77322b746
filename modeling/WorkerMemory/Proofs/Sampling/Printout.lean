import WorkerMemory.Proofs.Sampling.Answer
import WorkerMemory.Proofs.Sampling.Line
import WorkerMemory.Proofs.Text.Encoded

/-! # What is read from a printout

Each line is read on its own, whatever bytes the others have and however they end. So a memory that
is printed row by row is read back from between lines that are no rows.
-/

namespace WorkerMemory

open Text Numeral
open Utf8 (lineFeed)

/-! ## Printouts -/

inductive LineEnd where
  | feed
  | returnAndFeed
  deriving DecidableEq, Repr

def LineEnd.bytes : LineEnd → List UInt8
  | feed => [lineFeed]
  | returnAndFeed => [0x0D, lineFeed]

/-- Lines with their ends, and a last line that has none if there is such a line. -/
structure Printout where
  ended : List (List UInt8 × LineEnd)
  last : Option (List UInt8) := none
  single : ∀ line ∈ ended.map (·.1) ++ last.toList, lineFeed ∉ line

namespace Printout

def lines (p : Printout) : List (List UInt8) := p.ended.map (·.1) ++ p.last.toList

def bytes (p : Printout) : List UInt8 :=
  p.ended.flatMap (fun (line, ending) => line ++ ending.bytes) ++ p.last.getD []

end Printout

/-! ## Rows of a printout -/

namespace Row

theorem ofBytes?_eq_some_iff {line : List UInt8} {pid : Pid} {kb : KiB} :
    ofBytes? line = some (pid, kb) ↔ read (Utf8.decodeLossy line) = .ok (pid, kb) := by
  unfold ofBytes?
  cases read (Utf8.decodeLossy line) <;> simp [Except.toOption]

theorem ofBytes?_eq_none_iff {line : List UInt8} :
    ofBytes? line = none ↔ ∃ fault, read (Utf8.decodeLossy line) = .error fault := by
  unfold ofBytes?
  cases read (Utf8.decodeLossy line) <;> simp [Except.toOption]

theorem ofBytes?_nil : ofBytes? [] = none := by
  rw [ofBytes?, Utf8.decodeLossy]
  rfl

theorem ofBytes?_return (line : List UInt8) : ofBytes? (line ++ [0x0D]) = ofBytes? line := by
  have hdecoded : Utf8.decodeLossy (line ++ [0x0D]) =
      Utf8.decodeLossy line ++ '\r' :: Utf8.decodeLossy [] := Utf8.decodeLossy_append (by decide) ..
  rw [Utf8.decodeLossy] at hdecoded
  rw [ofBytes?, hdecoded, toOption_read_congr (fields_append_blank (by decide)), ofBytes?]

theorem within_single {line : List UInt8} (single : lineFeed ∉ line) :
    within line = (ofBytes? line).toList := by
  rw [within, List.splitOn_eq_singleton single]
  cases h : ofBytes? line <;> simp [h]

theorem afterFirst_single {line : List UInt8} (single : lineFeed ∉ line) :
    afterFirst line = [] := by
  rw [afterFirst, List.splitOn_eq_singleton single]
  rfl

theorem exists_up_to_lineFeed {line : List UInt8} (single : lineFeed ∉ line) (ending : LineEnd) :
    ∃ whole, line ++ ending.bytes = whole ++ [lineFeed] ∧ lineFeed ∉ whole ∧
      ofBytes? whole = ofBytes? line := by
  cases ending with
  | feed => exact ⟨line, rfl, single, rfl⟩
  | returnAndFeed =>
    have hsingle : lineFeed ∉ line ++ [0x0D] := by
      rw [List.mem_append, not_or]
      exact ⟨single, by decide⟩
    exact ⟨line ++ [0x0D], by simp [LineEnd.bytes], hsingle, ofBytes?_return line⟩

theorem within_line {line : List UInt8} (single : lineFeed ∉ line) (ending : LineEnd)
    (rest : List UInt8) :
    within (line ++ ending.bytes ++ rest) = (ofBytes? line).toList ++ within rest := by
  obtain ⟨whole, hwhole, hsingle, hread⟩ := exists_up_to_lineFeed single ending
  rw [hwhole, List.append_assoc, List.singleton_append, within_cons hsingle, hread]

theorem afterFirst_line {line : List UInt8} (single : lineFeed ∉ line) (ending : LineEnd)
    (rest : List UInt8) : afterFirst (line ++ ending.bytes ++ rest) = within rest := by
  obtain ⟨whole, hwhole, hsingle, -⟩ := exists_up_to_lineFeed single ending
  rw [hwhole, List.append_assoc, List.singleton_append, afterFirst_append,
    afterFirst_single hsingle, List.nil_append]

theorem within_lines {ended : List (List UInt8 × LineEnd)} {last : Option (List UInt8)}
    (single : ∀ line ∈ ended.map (·.1) ++ last.toList, lineFeed ∉ line) :
    within (ended.flatMap (fun (line, ending) => line ++ ending.bytes) ++ last.getD []) =
      (ended.map (·.1) ++ last.toList).filterMap ofBytes? := by
  induction ended with
  | nil =>
    cases last with
    | none =>
      rw [List.flatMap_nil, Option.getD_none, List.append_nil, within_single List.not_mem_nil,
        ofBytes?_nil]
      rfl
    | some line =>
      have hline : lineFeed ∉ line := single line List.mem_cons_self
      rw [List.flatMap_nil, Option.getD_some, List.nil_append, within_single hline]
      cases h : ofBytes? line <;> simp [h]
  | cons first ended ih =>
    obtain ⟨line, ending⟩ := first
    rw [List.map_cons, List.cons_append, List.forall_mem_cons] at single
    rw [List.flatMap_cons, List.append_assoc, within_line single.1, ih single.2, List.map_cons,
      List.cons_append, List.filterMap_cons]
    cases ofBytes? line <;> rfl

theorem afterFirst_bytes (p : Printout) :
    afterFirst p.bytes = (p.lines.drop 1).filterMap ofBytes? := by
  obtain ⟨ended, last, single⟩ := p
  unfold Printout.bytes Printout.lines
  dsimp only
  cases ended with
  | nil =>
    have hlast : lineFeed ∉ last.getD [] := by
      cases last with
      | none => exact List.not_mem_nil
      | some line => exact single line List.mem_cons_self
    rw [List.flatMap_nil, List.nil_append, afterFirst_single hlast]
    cases last <;> rfl
  | cons first ended =>
    obtain ⟨line, ending⟩ := first
    rw [List.map_cons, List.cons_append, List.forall_mem_cons] at single
    rw [List.flatMap_cons, List.append_assoc, afterFirst_line single.1, within_lines single.2]
    rfl

/-! ## The last row of a process -/

theorem lastKb?_filterMap_eq_some_iff {lines : List (List UInt8)} {pid : Pid} {kb : KiB} :
    lastKb? (lines.filterMap ofBytes?) pid = some kb ↔ ∃ before line after,
      lines = before ++ line :: after ∧ ofBytes? line = some (pid, kb) ∧
      ∀ later ∈ after, ∀ kb', ofBytes? later ≠ some (pid, kb') := by
  rw [lastKb?_eq_some_iff_append]
  constructor
  · rintro ⟨_, _, hrows, hlater⟩
    obtain ⟨before, rest, rfl, -, hrest⟩ := List.filterMap_eq_append_iff.mp hrows
    obtain ⟨passed, line, after, rfl, -, hline, rfl⟩ := List.filterMap_eq_cons_iff.mp hrest
    refine ⟨before ++ passed, line, after, (List.append_assoc ..).symm, hline, ?_⟩
    intro later hmem kb' hrow
    exact hlater _ (List.mem_filterMap.mpr ⟨later, hmem, hrow⟩) rfl
  · rintro ⟨before, line, after, rfl, hline, hlater⟩
    refine ⟨before.filterMap ofBytes?, after.filterMap ofBytes?, ?_, ?_⟩
    · rw [List.filterMap_append, List.filterMap_cons_some hline]
    · intro row hrow hpid
      obtain ⟨later, hmem, hread⟩ := List.mem_filterMap.mp hrow
      exact hlater later hmem row.2 (by rw [hread, ← hpid])

theorem lastKb?_of_entries {rows : List (Pid × KiB)} {memory : Samples}
    (sound : ∀ row ∈ rows, memory[row.1]? = some row.2)
    (complete : ∀ (pid : Pid) (kb : KiB), memory[pid]? = some kb → (pid, kb) ∈ rows) (pid : Pid) :
    lastKb? rows pid = memory[pid]? := by
  cases hlast : lastKb? rows pid with
  | some kb =>
    obtain ⟨before, after, rfl, -⟩ := lastKb?_eq_some_iff_append.mp hlast
    exact (sound (pid, kb) (List.mem_append_right _ List.mem_cons_self)).symm
  | none =>
    symm
    rw [Option.eq_none_iff_forall_ne_some]
    intro kb hkb
    exact lastKb?_eq_none_iff.mp hlast (pid, kb) (complete pid kb hkb) rfl

/-- A row as it may be printed. -/
def Renders (line : List UInt8) (pid : Pid) (kb : KiB) : Prop :=
  ∃ before between after, IsGap before ∧ IsGap between ∧ between ≠ [] ∧ IsGap after ∧
    line = Utf8.encode
      (before ++ (ofInt pid.toInt ++ (between ++ (ofNat kb.toNat ++ after))))

theorem ofBytes?_of_renders {line : List UInt8} {pid : Pid} {kb : KiB} (h : Renders line pid kb) :
    ofBytes? line = some (pid, kb) := by
  obtain ⟨before, between, after, hbefore, hbetween, hne, hafter, rfl⟩ := h
  rw [ofBytes?_eq_some_iff, Utf8.decodeLossy_encode]
  exact read_of_spells (spells_printed pid kb hbefore hbetween hne hafter)

end Row

/-! ## Samplings -/

/-- A sampling holds the last row of each process that is printed below the first line, and nothing
else. So it holds a memory that is printed there row by row, with any blanks in and around the rows
and any lines that are no rows between them. -/
theorem Sampler.sample_printout (sampler : Sampler) (ps : Ps) (pids : List Pid)
    (printout : Printout) {args : List String} {status : Nat}
    (asked : Request.on sampler.platform pids = some args)
    (finished : ps args = .finished status printout.bytes) :
    let sampling := sampler.sample ps pids
    let rows := printout.lines.drop 1
    sampling.failure = none ∧
    (∀ pid kb, sampling.memory[pid]? = some kb ↔ ∃ before line after,
      rows = before ++ line :: after ∧ Row.read (Utf8.decodeLossy line) = .ok (pid, kb) ∧
      ∀ later ∈ after, ∀ kb', Row.read (Utf8.decodeLossy later) ≠ .ok (pid, kb')) ∧
    ∀ memory : Samples,
      (∀ line ∈ rows, (∃ fault, Row.read (Utf8.decodeLossy line) = .error fault) ∨
        ∃ pid kb, memory[pid]? = some kb ∧ Row.Renders line pid kb) →
      (∀ (pid : Pid) (kb : KiB), memory[pid]? = some kb → ∃ line ∈ rows, Row.Renders line pid kb) →
      sampling.memory.Equiv memory := by
  intro sampling rows
  have hshows : sampling.Shows sampler.program (ps args) := shows_sample ps asked
  rw [finished] at hshows
  obtain ⟨hfailure, hrows⟩ := hshows
  have hmemory (pid : Pid) :
      sampling.memory[pid]? = Row.lastKb? (rows.filterMap Row.ofBytes?) pid := by
    rw [hrows, Row.afterFirst_bytes]
  refine ⟨hfailure, fun pid kb => ?_, fun memory sound complete => ?_⟩
  · simp only [hmemory, Row.lastKb?_filterMap_eq_some_iff, Row.ofBytes?_eq_some_iff, ne_eq]
  · apply Std.TreeMap.Equiv.of_forall_constGet?_eq
    intro pid
    refine (hmemory pid).trans (Row.lastKb?_of_entries ?_ ?_ pid)
    · intro row hrow
      obtain ⟨line, hline, hread⟩ := List.mem_filterMap.mp hrow
      obtain hfault | ⟨pid, kb, hkb, hrenders⟩ := sound line hline
      · rw [Row.ofBytes?_eq_none_iff.mpr hfault] at hread
        contradiction
      · rw [Row.ofBytes?_of_renders hrenders] at hread
        obtain rfl := Option.some.inj hread
        exact hkb
    · intro pid kb hkb
      obtain ⟨line, hline, hrenders⟩ := complete pid kb hkb
      exact List.mem_filterMap.mpr ⟨line, hline, Row.ofBytes?_of_renders hrenders⟩

/-- The first line would be a row. A character that breaks off, a third word, an empty line and a
size with a sign make none, and the blanks around the two rows are of several kinds. -/
theorem Sampler.sample_printout_in_noise :
    let one := ['\u3000', '1', '0', '\t', '\u00a0', '3', '0', '0', '\u2003']
    let other := "12 18446744073709551615".toList
    let printout : Printout := {
      ended := [("10 5".toUTF8.toList, .feed), ([0xE2, 0x82], .returnAndFeed),
        (Utf8.encode one, .returnAndFeed), ("10 1 2".toUTF8.toList, .feed), ([], .feed),
        ("10 -4".toUTF8.toList, .feed)]
      last := some (Utf8.encode other)
      single := by decide +kernel }
    let memory : Samples := .ofList [(10, 300), (12, 18446744073709551615)] _
    let sampling := sample { platform := .linux } (fun _ => .finished 1 printout.bytes) [10, 12]
    Request.on .linux [10, 12] = some ["-o", "pid,rss", "-p", "10,12"] ∧
    sampling.failure = none ∧ sampling.memory.Equiv memory := by
  intro one other printout memory sampling
  have hnamed : Request.namable [10, 12] = [10, 12] := by
    unfold Request.namable
    rw [List.mergeSort_of_pairwise (by decide)]
    decide
  have asked : Request.on .linux [10, 12] = some ["-o", "pid,rss", "-p", "10,12"] := by
    unfold Request.on Request.arguments
    rw [hnamed]
    decide +kernel
  have hone : Row.Renders (Utf8.encode one) 10 300 :=
    ⟨['\u3000'], ['\t', '\u00a0'], ['\u2003'], by decide, by decide, by decide, by decide, rfl⟩
  have hother : Row.Renders (Utf8.encode other) 12 18446744073709551615 :=
    ⟨[], [' '], [], by decide, by decide, by decide, by decide, rfl⟩
  have hentries : memory.toList = [(10, 300), (12, 18446744073709551615)] := by decide +kernel
  obtain ⟨hfailure, -, hmemory⟩ := sample_printout { platform := .linux }
    (fun _ => .finished 1 printout.bytes) [10, 12] printout asked rfl
  refine ⟨asked, hfailure, hmemory memory ?_ ?_⟩
  · have hfault (line : List UInt8) (h : Row.ofBytes? line = none) :
        ∃ fault, Row.read (Utf8.decodeLossy line) = .error fault := Row.ofBytes?_eq_none_iff.mp h
    intro line hline
    change line ∈ [[0xE2, 0x82], Utf8.encode one, "10 1 2".toUTF8.toList, [],
      "10 -4".toUTF8.toList, Utf8.encode other] at hline
    simp only [List.mem_cons, List.not_mem_nil, or_false] at hline
    obtain rfl | rfl | rfl | rfl | rfl | rfl := hline
    · exact .inl (hfault _ (by decide +kernel))
    · exact .inr ⟨10, 300, by decide +kernel, hone⟩
    · exact .inl (hfault _ (by decide +kernel))
    · exact .inl (hfault _ (by decide +kernel))
    · exact .inl (hfault _ (by decide +kernel))
    · exact .inr ⟨12, _, by decide +kernel, hother⟩
  · intro pid kb hkb
    have hmem := Std.TreeMap.mem_toList_iff_getElem?_eq_some.mpr hkb
    rw [hentries] at hmem
    simp only [List.mem_cons, Prod.mk.injEq, List.not_mem_nil, or_false] at hmem
    obtain ⟨rfl, rfl⟩ | ⟨rfl, rfl⟩ := hmem
    · exact ⟨_, by simp [Printout.lines, printout], hone⟩
    · exact ⟨_, by simp [Printout.lines, printout], hother⟩

end WorkerMemory
