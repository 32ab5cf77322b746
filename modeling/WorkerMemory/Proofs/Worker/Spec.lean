import WorkerMemory.Proofs.Outcome
import WorkerMemory.Proofs.Text.Numeral.Spelling
import WorkerMemory.Proofs.Text.Split
import WorkerMemory.Worker.Spec

/-! # Which texts specify a worker

An id, a colon and a process id, and then nothing or a colon and the mnemonic. Any other text is told
by the first of its parts that is missing or is not the number it should be.
-/

namespace WorkerMemory.WorkerSpec

open Text Numeral

/-- A text that specifies a worker. There is no colon in a number, so the mnemonic is everything
behind the second one. -/
inductive Written : List Char → WorkerSpec → Prop
  | unnamed {idText pidText : List Char} {id : WorkerId} {pid : Pid}
      (hid : Unsigned idText id.toNat) (hpid : Signed pidText pid.toInt) :
      Written (idText ++ ':' :: pidText) { id, pid, mnemonic := "" }
  | named {idText pidText : List Char} {id : WorkerId} {pid : Pid}
      (hid : Unsigned idText id.toNat) (hpid : Signed pidText pid.toInt) (mnemonic : String) :
      Written (idText ++ ':' :: (pidText ++ ':' :: mnemonic.toList)) { id, pid, mnemonic }

/-- A text that specifies no worker, and the reason. The first part at fault is told. -/
inductive HasFault (text : List Char) : String → Prop
  | missingId {afterId : Option (List Char)} (h : Cut ':' text [] afterId) :
      HasFault text "missing worker id"
  | invalidId {idText : List Char} {afterId : Option (List Char)} (h : Cut ':' text idText afterId)
      (hne : idText ≠ []) (hid : ∀ n, Unsigned idText n → UInt32.size ≤ n) :
      HasFault text "worker id is not a number"
  | missingPid {idText : List Char} {id : WorkerId} (h : Cut ':' text idText none)
      (hid : Unsigned idText id.toNat) : HasFault text "missing process id"
  | invalidPid {idText afterId pidText : List Char} {afterPid : Option (List Char)} {id : WorkerId}
      (h : Cut ':' text idText (some afterId)) (hid : Unsigned idText id.toNat)
      (h' : Cut ':' afterId pidText afterPid)
      (hpid : ∀ z, Signed pidText z → z < Int64.minValue.toInt ∨ Int64.maxValue.toInt < z) :
      HasFault text "process id is not a number"

/-! ## Two cuts -/

theorem notMem_of_unsigned {text : List Char} {n : Nat} (h : Unsigned text n) : ':' ∉ text :=
  notMem_of_signed rfl (by decide) (by decide) (.unsigned h)

theorem written_iff_cut {text : List Char} {spec : WorkerSpec} :
    Written text spec ↔ ∃ idText afterId pidText afterPid,
      Cut ':' text idText (some afterId) ∧ Unsigned idText spec.id.toNat ∧
      Cut ':' afterId pidText afterPid ∧ Signed pidText spec.pid.toInt ∧
      spec.mnemonic = String.ofList (afterPid.getD []) := by
  constructor
  · rintro (⟨hid, hpid⟩ | ⟨hid, hpid, mnemonic⟩)
    · exact ⟨_, _, _, none, .cut (notMem_of_unsigned hid) _, hid,
        .uncut (notMem_of_signed rfl (by decide) (by decide) hpid), hpid, rfl⟩
    · refine ⟨_, _, _, some mnemonic.toList, .cut (notMem_of_unsigned hid) _, hid,
        .cut (notMem_of_signed rfl (by decide) (by decide) hpid) _, hpid, ?_⟩
      rw [Option.getD_some, String.ofList_toList]
  · obtain ⟨id, pid, mnemonic⟩ := spec
    rintro ⟨idText, afterId, pidText, afterPid, h, hid, h', hpid, rfl⟩
    cases h
    cases h' with
    | uncut => exact .unnamed hid hpid
    | cut free rest =>
      have hnamed := Written.named hid hpid (String.ofList rest)
      rwa [String.toList_ofList] at hnamed

/-! ## Reading -/

theorem read_of_written {text : List Char} {spec : WorkerSpec} (h : Written text spec) :
    read text = .ok spec := by
  obtain ⟨idText, afterId, pidText, afterPid, h, hid, h', hpid, hmnemonic⟩ := written_iff_cut.mp h
  have hne : idText.isEmpty = false := List.isEmpty_eq_false_iff.mpr hid.ne_nil
  simp only [read, cutAt_of_cut h, cutAt_of_cut h', hne, uint32?_eq_some_iff.mpr hid,
    int64?_eq_some_iff.mpr hpid, ← hmnemonic, Bool.false_eq_true, if_false]

theorem read_of_hasFault {text : List Char} {reason : String} (h : HasFault text reason) :
    ∃ fault, read text = .error fault ∧ reason = fault.reason := by
  cases h with
  | missingId h =>
    refine ⟨.missingId, ?_, rfl⟩
    simp only [read, cutAt_of_cut h, List.isEmpty_nil, if_true]
  | @invalidId idText _ h hne hid =>
    have hempty : idText.isEmpty = false := List.isEmpty_eq_false_iff.mpr hne
    refine ⟨.invalidId, ?_, rfl⟩
    simp only [read, cutAt_of_cut h, hempty, uint32?_eq_none_iff.mpr hid, Bool.false_eq_true,
      if_false]
  | @missingPid idText _ h hid =>
    have hempty : idText.isEmpty = false := List.isEmpty_eq_false_iff.mpr hid.ne_nil
    refine ⟨.missingPid, ?_, rfl⟩
    simp only [read, cutAt_of_cut h, hempty, uint32?_eq_some_iff.mpr hid, Bool.false_eq_true,
      if_false]
  | @invalidPid idText _ _ _ _ h hid h' hpid =>
    have hempty : idText.isEmpty = false := List.isEmpty_eq_false_iff.mpr hid.ne_nil
    refine ⟨.invalidPid, ?_, rfl⟩
    simp only [read, cutAt_of_cut h, cutAt_of_cut h', hempty, uint32?_eq_some_iff.mpr hid,
      int64?_eq_none_iff.mpr hpid, Bool.false_eq_true, if_false]

theorem written_or_hasFault (text : List Char) :
    (∃ spec, Written text spec) ∨ ∃ reason, HasFault text reason := by
  obtain ⟨idText, afterId, h⟩ := exists_cut ':' text
  by_cases hne : idText = []
  · subst hne
    exact .inr ⟨_, .missingId h⟩
  cases hid : uint32? idText with
  | none => exact .inr ⟨_, .invalidId h hne (uint32?_eq_none_iff.mp hid)⟩
  | some id =>
    have hid := uint32?_eq_some_iff.mp hid
    cases afterId with
    | none => exact .inr ⟨_, .missingPid h hid⟩
    | some afterId =>
      obtain ⟨pidText, afterPid, h'⟩ := exists_cut ':' afterId
      cases hpid : int64? pidText with
      | none => exact .inr ⟨_, .invalidPid h hid h' (int64?_eq_none_iff.mp hpid)⟩
      | some pid =>
        have hpid := int64?_eq_some_iff.mp hpid
        exact .inl ⟨⟨id, pid, _⟩, written_iff_cut.mpr ⟨_, _, _, _, h, hid, h', hpid, rfl⟩⟩

theorem parse_of_written {text : String} {spec : WorkerSpec} (h : Written text.toList spec) :
    parse text = .ok spec := by
  rw [parse, read_of_written h]
  rfl

theorem parse_of_hasFault {text : String} {e : InvalidSpec}
    (h : e.spec = text ∧ HasFault text.toList e.reason) : parse text = .error e := by
  obtain ⟨spec, reason⟩ := e
  obtain ⟨rfl, hfault⟩ := h
  obtain ⟨fault, hread, rfl⟩ := read_of_hasFault hfault
  rw [parse, hread]
  rfl

theorem parse_iff (text : String) :
    (∀ spec, parse text = .ok spec ↔ Written text.toList spec) ∧
      ∀ e, parse text = .error e ↔ e.spec = text ∧ HasFault text.toList e.reason := by
  refine outcome_iff (fun _ => parse_of_written) (fun _ => parse_of_hasFault) ?_
  exact (written_or_hasFault text.toList).imp_right fun ⟨reason, h⟩ => ⟨⟨text, reason⟩, rfl, h⟩

/-! ## Printed specifications -/

def print (spec : WorkerSpec) : List Char :=
  ofNat spec.id.toNat ++ ':' :: (ofInt spec.pid.toInt ++ ':' :: spec.mnemonic.toList)

theorem written_print (spec : WorkerSpec) : Written spec.print spec :=
  .named (unsigned_ofNat _) (signed_ofInt _) spec.mnemonic

/-- Workers are what they are written as, the reason names the first part at fault, and a printed
specification is read back. -/
theorem parse_written (text : String) :
    (∀ spec, parse text = .ok spec ↔ Written text.toList spec) ∧
    (∀ e, parse text = .error e ↔ e.spec = text ∧ HasFault text.toList e.reason) ∧
    ∀ spec : WorkerSpec, parse (String.ofList spec.print) = .ok spec := by
  obtain ⟨hok, herror⟩ := parse_iff text
  refine ⟨hok, herror, fun spec => parse_of_written ?_⟩
  rw [String.toList_ofList]
  exact written_print spec

end WorkerMemory.WorkerSpec
