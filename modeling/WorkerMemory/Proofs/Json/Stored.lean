import WorkerMemory.Metric.Json
import WorkerMemory.Proofs.Json.Record
import WorkerMemory.Proofs.Time.Rfc3339
import WorkerMemory.Settings.Json

/-! # Stored values are read back

A worker, a stat or settings written as JSON give the same value again. So whatever text a value was
read from, it may be written anew.
-/

namespace WorkerMemory

open Json Json.Reader

/-! ## Workers -/

theorem PartialWorker.readsMembers_toJson (w : Worker) :
    ReadsMembers (known jsonMembers fun _ p => skipValue *> return p) {} w.jsonMembers
      ⟨some w.id, some w.pid, some w.mnemonic, some w.keyHash, some w.isMultiplex,
        some w.isSandboxed⟩ := by
  unfold Worker.jsonMembers
  refine .cons (fun _ h => reads_known rfl rfl (.bind (reads_uint32 w.id h) (.done _ _))) ?_
  refine .cons (fun _ h => reads_known rfl rfl (.bind (reads_int64 w.pid h) (.done _ _))) ?_
  refine .cons (fun _ _ => reads_known rfl rfl (.bind (reads_string w.mnemonic _) (.done _ _))) ?_
  refine .cons (fun _ h => reads_known rfl rfl (.bind (reads_int64 w.keyHash h) (.done _ _))) ?_
  refine .cons (fun _ _ => reads_known rfl rfl (.bind (reads_bool w.isMultiplex _) (.done _ _))) ?_
  refine .cons (fun _ _ => reads_known rfl rfl (.bind (reads_bool w.isSandboxed _) (.done _ _))) ?_
  exact .nil _

theorem Worker.ofJson_toJson (w : Worker) : Worker.ofJson (String.ofList w.toJson) = .ok w :=
  whole_eq_ok (reads_record (PartialWorker.readsMembers_toJson w) rfl)

/-! ## Stats -/

theorem PartialStat.readsMembers_toJson (s : Stat) :
    ReadsMembers (known jsonMembers fun _ p => skipValue *> return p) {}
      [("used_memory_kb", ofNat s.kb.toNat), ("collected_at", s.observedAt.toJson)]
      ⟨some s.kb, some s.observedAt⟩ := by
  refine .cons (fun _ h => reads_known rfl rfl (.bind (reads_uint64 s.kb h) (.done _ _))) ?_
  refine .cons (fun rest _ => reads_known rfl rfl (.bind ?_ (.done _ _))) (.nil _)
  exact reads_parsed _ (Rfc3339.parse_print s.observedAt) rest

theorem Stat.ofJson_toJson (s : Stat) : Stat.ofJson (String.ofList s.toJson) = .ok s :=
  whole_eq_ok (reads_record (PartialStat.readsMembers_toJson s) rfl)

/-! ## Settings -/

theorem PartialSettings.readsMembers_toJson (s : Settings) :
    ReadsMembers (known jsonMembers fun _ p => skipValue *> return p) {}
      [("ps_program", ofString s.program), ("interval_secs", ofNat s.intervalSecs.toNat),
        ("storage", ofString s.storage), ("log_level", ofOption ofString s.logLevel),
        ("log_file", ofOption ofString s.logFile)]
      ⟨some s.program, some s.intervalSecs, some s.storage, some s.logLevel, some s.logFile⟩ := by
  refine .cons (fun _ _ => reads_known rfl rfl (.bind (reads_string s.program _) (.done _ _))) ?_
  refine .cons (fun _ h => reads_known rfl rfl (.bind (reads_uint64 s.intervalSecs h) (.done _ _))) ?_
  refine .cons (fun _ _ => reads_known rfl rfl (.bind (reads_string s.storage _) (.done _ _))) ?_
  refine .cons (fun _ _ => reads_known rfl rfl
    (.bind (reads_optional_string s.logLevel _) (.done _ _))) ?_
  refine .cons (fun _ _ => reads_known rfl rfl
    (.bind (reads_optional_string s.logFile _) (.done _ _))) ?_
  exact .nil _

theorem Settings.ofJson_toJson (s : Settings) : Settings.ofJson (String.ofList s.toJson) = .ok s :=
  whole_eq_ok (reads_record (PartialSettings.readsMembers_toJson s) rfl)

/-! ## Any of them -/

/-- Every value is read back from what is written for it, so that a value read from any text stays
the same when it is written and read again. -/
structure Lossless {α : Type} (write : α → List Char) (read : String → Except Fault α) : Prop where
  read_write (a : α) : read (String.ofList (write a)) = .ok a
  reread (text : String) : (read text).bind (fun a => read (String.ofList (write a))) = read text

theorem lossless_of_read_write {α : Type} {write : α → List Char}
    {read : String → Except Fault α} (h : ∀ a, read (String.ofList (write a)) = .ok a) :
    Lossless write read := by
  refine ⟨h, fun text => ?_⟩
  cases read text with
  | error fault => rfl
  | ok a => exact h a

theorem stored_values_lossless :
    Lossless Worker.toJson Worker.ofJson ∧ Lossless Stat.toJson Stat.ofJson ∧
      Lossless Settings.toJson Settings.ofJson :=
  ⟨lossless_of_read_write Worker.ofJson_toJson, lossless_of_read_write Stat.ofJson_toJson,
    lossless_of_read_write Settings.ofJson_toJson⟩

end WorkerMemory
