import Mathlib.Data.List.Basic
import WorkerMemory.Proofs.Outcome
import WorkerMemory.Proofs.Text.Numeral.Spelling
import WorkerMemory.Proofs.Text.Words
import WorkerMemory.Sampling.Row

/-! # Which lines are rows

A process id, blanks and a size, with blanks around them or not. A line that is no row is told by
the number of its words, or by the first of its two words that is not the number it should be.
-/

namespace WorkerMemory.Row

open Text Numeral

/-- A line that is a row. -/
def Spells (line : List Char) (pid : Pid) (kb : KiB) : Prop :=
  ∃ before pidText between kbText after,
    line = before ++ (pidText ++ (between ++ (kbText ++ after))) ∧
    IsGap before ∧ IsGap between ∧ between ≠ [] ∧ IsGap after ∧
    Signed pidText pid.toInt ∧ Unsigned kbText kb.toNat

/-- A line that is no row, and why. -/
inductive HasFault (line : List Char) : RowFault → Prop
  | count {words : List (List Char)} (h : HasWords line words) (hcount : words.length ≠ 2) :
      HasFault line (.fieldCount (String.ofList line) words.length)
  | pid {pidText kbText : List Char} (h : HasWords line [pidText, kbText])
      (hpid : ∀ z, Signed pidText z → z < Int64.minValue.toInt ∨ Int64.maxValue.toInt < z) :
      HasFault line (.invalidNumber (String.ofList line) (String.ofList pidText))
  | kb {pidText kbText : List Char} {pid : Pid} (h : HasWords line [pidText, kbText])
      (hpid : Signed pidText pid.toInt) (hkb : ∀ n, Unsigned kbText n → UInt64.size ≤ n) :
      HasFault line (.invalidNumber (String.ofList line) (String.ofList kbText))

/-! ## Numbers are words -/

theorem isWord_of_signed {text : List Char} {z : Int} (h : Signed text z) : IsWord text := by
  have hread := signed?_eq_some_iff.mpr h
  refine ⟨?_, fun c hc => ?_⟩
  · rintro rfl
    contradiction
  · obtain hdigit | rfl | rfl := mem_of_signed? hread c hc
    · exact isBlank_eq_false_of_isDigit hdigit
    · decide
    · decide

theorem isWord_of_unsigned {text : List Char} {n : Nat} (h : Unsigned text n) : IsWord text :=
  isWord_of_signed (.unsigned h)

theorem spells_iff_hasWords {line : List Char} {pid : Pid} {kb : KiB} :
    Spells line pid kb ↔ ∃ pidText kbText, HasWords line [pidText, kbText] ∧
      Signed pidText pid.toInt ∧ Unsigned kbText kb.toNat := by
  constructor
  · rintro ⟨before, pidText, between, kbText, after, hline, hbefore, hbetween, hne, hafter, hpid, hkb⟩
    exact ⟨pidText, kbText, hasWords_two_iff.mpr ⟨before, between, after, hline, hbefore,
      isWord_of_signed hpid, hbetween, hne, isWord_of_unsigned hkb, hafter⟩, hpid, hkb⟩
  · rintro ⟨pidText, kbText, h, hpid, hkb⟩
    obtain ⟨before, between, after, hline, hbefore, -, hbetween, hne, -, hafter⟩ :=
      hasWords_two_iff.mp h
    exact ⟨before, pidText, between, kbText, after, hline, hbefore, hbetween, hne, hafter, hpid, hkb⟩

/-! ## Reading -/

theorem read_of_two_words {line pidText kbText : List Char}
    (h : HasWords line [pidText, kbText]) :
    read line = match int64? pidText, uint64? kbText with
      | some pid, some kb => .ok (pid, kb)
      | none, _ => .error (.invalidNumber (String.ofList line) (String.ofList pidText))
      | some _, none => .error (.invalidNumber (String.ofList line) (String.ofList kbText)) := by
  cases hpid : int64? pidText <;> cases hkb : uint64? kbText <;>
    simp only [read, fields_of_hasWords h, hpid, hkb]

theorem read_of_spells {line : List Char} {pid : Pid} {kb : KiB} (h : Spells line pid kb) :
    read line = .ok (pid, kb) := by
  obtain ⟨pidText, kbText, hwords, hpid, hkb⟩ := spells_iff_hasWords.mp h
  rw [read_of_two_words hwords, int64?_eq_some_iff.mpr hpid, uint64?_eq_some_iff.mpr hkb]

theorem read_of_hasFault {line : List Char} {fault : RowFault} (h : HasFault line fault) :
    read line = .error fault := by
  cases h with
  | count hwords hcount =>
    rw [read, fields_of_hasWords hwords]
    split
    · exact absurd rfl hcount
    · rfl
  | pid hwords hpid => rw [read_of_two_words hwords, int64?_eq_none_iff.mpr hpid]
  | kb hwords hpid hkb =>
    rw [read_of_two_words hwords, int64?_eq_some_iff.mpr hpid, uint64?_eq_none_iff.mpr hkb]

theorem spells_or_hasFault (line : List Char) :
    (∃ pid kb, Spells line pid kb) ∨ ∃ fault, HasFault line fault := by
  obtain ⟨words, h⟩ := exists_hasWords line
  by_cases hcount : words.length = 2
  · obtain ⟨pidText, kbText, rfl⟩ := List.length_eq_two.mp hcount
    cases hpid : int64? pidText with
    | none => exact .inr ⟨_, .pid h (int64?_eq_none_iff.mp hpid)⟩
    | some pid =>
      have hsigned := int64?_eq_some_iff.mp hpid
      cases hkb : uint64? kbText with
      | none => exact .inr ⟨_, .kb h hsigned (uint64?_eq_none_iff.mp hkb)⟩
      | some kb =>
        have hunsigned := uint64?_eq_some_iff.mp hkb
        exact .inl ⟨pid, kb, spells_iff_hasWords.mpr ⟨_, _, h, hsigned, hunsigned⟩⟩
  · exact .inr ⟨_, .count h hcount⟩

theorem read_iff (line : List Char) :
    (∀ pid kb, read line = .ok (pid, kb) ↔ Spells line pid kb) ∧
      ∀ fault, read line = .error fault ↔ HasFault line fault := by
  have total : (∃ row : Pid × KiB, Spells line row.1 row.2) ∨ ∃ fault, HasFault line fault :=
    (spells_or_hasFault line).imp_left fun ⟨pid, kb, h⟩ => ⟨(pid, kb), h⟩
  obtain ⟨hok, herror⟩ := outcome_iff (fun _ => read_of_spells) (fun _ => read_of_hasFault) total
  exact ⟨fun pid kb => hok (pid, kb), herror⟩

theorem read_eq_ok_iff {line : List Char} {pid : Pid} {kb : KiB} :
    read line = .ok (pid, kb) ↔ Spells line pid kb := (read_iff line).1 pid kb

theorem read_eq_error_iff {line : List Char} {fault : RowFault} :
    read line = .error fault ↔ HasFault line fault := (read_iff line).2 fault

/-! ## Printed rows -/

theorem spells_printed (pid : Pid) (kb : KiB) {before between after : List Char}
    (hbefore : IsGap before) (hbetween : IsGap between) (hne : between ≠ []) (hafter : IsGap after) :
    Spells (before ++ (ofInt pid.toInt ++ (between ++ (ofNat kb.toNat ++ after)))) pid kb :=
  ⟨before, _, between, _, after, rfl, hbefore, hbetween, hne, hafter, signed_ofInt _,
    unsigned_ofNat _⟩

/-- Rows are what they are spelled as, faults have their reasons, and printed numbers are read
back. -/
theorem parse_spelled (line : String) :
    (∀ pid kb, parse line = .ok (pid, kb) ↔ Spells line.toList pid kb) ∧
    (∀ fault, parse line = .error fault ↔ HasFault line.toList fault) ∧
    ∀ (pid : Pid) (kb : KiB),
      parse (String.ofList (ofInt pid.toInt ++ ' ' :: ofNat kb.toNat)) = .ok (pid, kb) := by
  refine ⟨fun pid kb => read_eq_ok_iff, fun fault => read_eq_error_iff, fun pid kb => ?_⟩
  have hblank : IsGap [' '] := by simp [IsGap, isBlank]
  have hspells := spells_printed pid kb isGap_nil hblank (List.cons_ne_nil _ _) isGap_nil
  rw [List.append_nil] at hspells
  rw [parse, String.toList_ofList]
  exact read_of_spells hspells

end WorkerMemory.Row
