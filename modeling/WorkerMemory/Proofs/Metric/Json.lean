import Mathlib.Data.List.Forall2
import WorkerMemory.Metric.Json
import WorkerMemory.Proofs.Json.Line
import WorkerMemory.Proofs.Json.Record
import WorkerMemory.Proofs.Json.Value
import WorkerMemory.Proofs.Text.Split
import WorkerMemory.Proofs.Time.Rfc3339

/-! # Reports are read back from their lines

A line tells the worker of its metric, and the memory if there is any.
-/

namespace WorkerMemory

open Text Json Json.Reader

namespace PartialReport

/-- What is kept of a worker's members while a report is read. -/
def workerValues (w : Worker) : List (String × Value) := [
  ("worker_id", .number (.int w.id.toNat)),
  ("process_id", .number (.int w.pid.toInt)),
  ("mnemonic", .string w.mnemonic),
  ("worker_key_hash", .number (.int w.keyHash.toInt)),
  ("is_multiplex", .bool w.isMultiplex),
  ("is_sandboxed", .bool w.isSandboxed)]

theorem addMember_workerValues (w : Worker) :
    (workerValues w).foldlM addMember {} =
      .ok ⟨some w.id, some w.pid, some w.mnemonic, some w.keyHash, some w.isMultiplex,
        some w.isSandboxed⟩ := by
  simp [workerValues, addMember, once, fitting, string, bool, Integer.uint32?_toNat,
    Integer.int64?_toInt]
  rfl

/-- Reads a member that is not the report's own. -/
def keep (key : String) (p : PartialReport) : Json.Reader PartialReport :=
  return { p with worker := (key, ← Reader.value 1) :: p.worker }

theorem readsMembers_keep {key : String} {text : List Char} {v : Value}
    (h : ∀ field ∈ jsonMembers, field.name ≠ key)
    (hv : ∀ rest, EndsValue rest → Reads (Reader.value 1) (text ++ rest) v rest)
    {p p' : PartialReport} {written : List (String × List Char)}
    (others : ReadsMembers (known jsonMembers keep) { p with worker := (key, v) :: p.worker }
      written p') :
    ReadsMembers (known jsonMembers keep) p ((key, text) :: written) p' := by
  refine .cons (fun rest hrest => ?_) others
  rw [known_of_forall_ne h]
  exact .bind (hv rest hrest) (.done _ _)

theorem readsMembers_worker (w : Worker) :
    ReadsMembers (known jsonMembers keep) {} w.jsonMembers
      { worker := (workerValues w).reverse } := by
  unfold Worker.jsonMembers
  refine readsMembers_keep (by decide) (fun _ => reads_value_uint32 w.id) ?_
  refine readsMembers_keep (by decide) (fun _ => reads_value_number (inRange_int64 w.pid)) ?_
  refine readsMembers_keep (by decide) (fun rest _ => reads_value_string w.mnemonic rest) ?_
  refine readsMembers_keep (by decide) (fun _ => reads_value_number (inRange_int64 w.keyHash)) ?_
  refine readsMembers_keep (by decide) (fun rest _ => reads_value_bool w.isMultiplex rest) ?_
  refine readsMembers_keep (by decide) (fun rest _ => reads_value_bool w.isSandboxed rest) ?_
  exact .nil _

theorem reads_nullable_instant (t : Instant) (rest : List Char) :
    Reads (nullable (parsed Rfc3339.parse)) (t.toJson ++ rest) (some t) rest :=
  reads_nullable (by decide) rfl (reads_parsed _ (Rfc3339.parse_print t) rest)

theorem readsMembers_report (r : Report) :
    ReadsMembers (known jsonMembers keep) {}
      (r.worker.jsonMembers ++ [("measurable", ofBool r.measurable)] ++
        (r.residentKb.map fun kb => ("resident_memory_kb", ofNat kb.toNat)).toList ++
        (r.residentBytes.map fun n => ("resident_memory_bytes", ofNat n.toNat)).toList ++
        (r.observedAt.map fun t => ("observed_at", t.toJson)).toList)
      { worker := (workerValues r.worker).reverse
        measurable := some r.measurable
        residentKb := r.residentKb.map some
        residentBytes := r.residentBytes.map some
        observedAt := r.observedAt.map some } := by
  let p : PartialReport := { worker := (workerValues r.worker).reverse }
  let measured : PartialReport := { p with measurable := some r.measurable }
  let withKb : PartialReport := { measured with residentKb := r.residentKb.map some }
  let withBytes : PartialReport := { withKb with residentBytes := r.residentBytes.map some }
  have hmeasurable : ReadsMembers (known jsonMembers keep) p [("measurable", ofBool r.measurable)]
      measured :=
    .cons (fun rest _ => reads_known rfl rfl (.bind (reads_bool r.measurable rest) (.done _ _)))
      (.nil _)
  have hkb : ReadsMembers (known jsonMembers keep) measured
      (r.residentKb.map fun kb => ("resident_memory_kb", ofNat kb.toNat)).toList withKb :=
    readsMembers_optional (fun kb => { measured with residentKb := kb }) rfl rfl rfl
      (fun kb _ hrest => reads_nullable_uint64 kb hrest) r.residentKb
  have hbytes : ReadsMembers (known jsonMembers keep) withKb
      (r.residentBytes.map fun n => ("resident_memory_bytes", ofNat n.toNat)).toList withBytes :=
    readsMembers_optional (fun n => { withKb with residentBytes := n }) rfl rfl rfl
      (fun n _ hrest => reads_nullable_uint64 n hrest) r.residentBytes
  have hobserved : ReadsMembers (known jsonMembers keep) withBytes
      (r.observedAt.map fun t => ("observed_at", t.toJson)).toList
      { withBytes with observedAt := r.observedAt.map some } :=
    readsMembers_optional (fun t => { withBytes with observedAt := t }) rfl rfl rfl
      (fun t rest _ => reads_nullable_instant t rest) r.observedAt
  exact ((((readsMembers_worker r.worker).append hmeasurable).append hkb).append hbytes).append
    hobserved

theorem finish_report (r : Report) :
    finish {
      worker := (workerValues r.worker).reverse
      measurable := some r.measurable
      residentKb := r.residentKb.map some
      residentBytes := r.residentBytes.map some
      observedAt := r.observedAt.map some } = .ok r := by
  have hgetD {α : Type} (a : Option α) : (a.map some).getD none = a := by cases a <;> rfl
  unfold finish
  rw [List.reverse_reverse, addMember_workerValues]
  simp only [hgetD]
  rfl

end PartialReport

/-! ## One report -/

theorem Report.ofJson_toJson (r : Report) : Report.ofJson (String.ofList r.toJson) = .ok r :=
  whole_eq_ok (reads_object (PartialReport.readsMembers_report r) (PartialReport.finish_report r))

theorem Report.notMem_toJson (r : Report) : '\n' ∉ r.toJson := by
  have hworker : ∀ member ∈ r.worker.jsonMembers, '\n' ∉ member.2 := by
    simp [Worker.jsonMembers, ofString, notMem_ofNat, notMem_ofInt, notMem_ofChars,
      notMem_ofBool]
  have hoptional {α : Type} (name : String) (a : Option α) (write : α → List Char)
      (h : ∀ x, '\n' ∉ write x) :
      ∀ member ∈ (a.map fun x => (name, write x)).toList, '\n' ∉ member.2 := by
    cases a <;> simp [h]
  apply notMem_ofMembers
  simp only [List.forall_mem_append, List.forall_mem_singleton]
  exact ⟨⟨⟨⟨hworker, notMem_ofBool _⟩, hoptional _ _ _ fun kb => notMem_ofNat kb.toNat⟩,
    hoptional _ _ _ fun n => notMem_ofNat n.toNat⟩,
    hoptional _ _ _ fun t => notMem_ofChars (Rfc3339.print t)⟩

/-- A report of a worker, with its memory if there is any. -/
structure Report.Tells (r : Report) (w : Worker) (stat : Option Stat) : Prop where
  worker : r.worker = w
  measurable : r.measurable = stat.isSome
  kb : r.residentKb = stat.map (·.kb)
  bytes : r.residentBytes.map UInt64.toNat =
    stat.map fun s => min (2 ^ 64 - 1) (1024 * s.kb.toNat)
  observedAt : r.observedAt = stat.map (·.observedAt)

/-- A text whose lines are reports, one for each metric. -/
def Report.Lists (text : String) (metrics : List Metric) : Prop :=
  List.Forall₂
    (fun line m => ∃ r, Report.ofJson (String.ofList line) = .ok r ∧ r.Tells m.worker m.stat)
    (splitOn '\n' text.toList) metrics

theorem Report.Lists.exists_line {text : String} {metrics : List Metric}
    (h : Report.Lists text metrics) {m : Metric} (hm : m ∈ metrics) :
    ∃ line ∈ splitOn '\n' text.toList, ∃ r,
      Report.ofJson (String.ofList line) = .ok r ∧ r.Tells m.worker m.stat := by
  obtain ⟨hlength, htells⟩ := List.forall₂_iff_get.mp h
  obtain ⟨i, hi, rfl⟩ := List.getElem_of_mem hm
  exact ⟨_, List.getElem_mem (hlength ▸ hi), htells i (hlength ▸ hi) hi⟩

/-! ## Lines -/

namespace Metric

theorem splitOn_jsonLines {metrics : List Metric} (h : metrics ≠ []) :
    splitOn '\n' (jsonLines metrics).toList = metrics.map (·.toReport.toJson) := by
  have hfree : ∀ line ∈ metrics.map (·.toReport.toJson), '\n' ∉ line := by
    intro line hline
    obtain ⟨m, -, rfl⟩ := List.mem_map.mp hline
    exact Report.notMem_toJson _
  rw [jsonLines, String.toList_ofList]
  exact splitOn_joinWith hfree (by simpa using h)

theorem toNat_residentBytes (m : Metric) :
    m.toReport.residentBytes.map UInt64.toNat =
      m.stat.map fun s => min (2 ^ 64 - 1) (1024 * s.kb.toNat) := by
  have hbytes (s : Stat) : s.bytes.toNat = min (2 ^ 64 - 1) (1024 * s.kb.toNat) := by
    rw [Stat.bytes, toNat_saturating, Nat.min_comm, Nat.mul_comm]
    rfl
  simp [toReport, Function.comp_def, hbytes]

theorem ofJson_splitOn_jsonLines {metrics : List Metric} (h : metrics ≠ []) :
    (splitOn '\n' (jsonLines metrics).toList).map (fun line => Report.ofJson (String.ofList line)) =
      metrics.map fun m => .ok m.toReport := by
  rw [splitOn_jsonLines h, List.map_map]
  exact List.map_congr_left fun m _ => Report.ofJson_toJson m.toReport

theorem tells_toReport {m : Metric} (h : m.isMeasurable = m.stat.isSome) :
    m.toReport.Tells m.worker m.stat :=
  ⟨rfl, h, rfl, toNat_residentBytes m, rfl⟩

theorem lists_jsonLines {metrics : List Metric} (hne : metrics ≠ [])
    (h : ∀ m ∈ metrics, m.isMeasurable = m.stat.isSome) :
    Report.Lists (jsonLines metrics) metrics := by
  rw [Report.Lists, splitOn_jsonLines hne, List.forall₂_map_left_iff, List.forall₂_same]
  exact fun m hm => ⟨m.toReport, Report.ofJson_toJson _, tells_toReport (h m hm)⟩

/-- Each line is read back as the report it was written for, and there are no other lines. The bytes
of a report are those of its KiB, as far as they fit. -/
theorem read_jsonLines {metrics : List Metric} (h : metrics ≠ []) :
    (splitOn '\n' (jsonLines metrics).toList).map (fun line => Report.ofJson (String.ofList line)) =
        metrics.map (fun m => .ok m.toReport) ∧
      ∀ m ∈ metrics, m.toReport.residentBytes.map UInt64.toNat =
        m.stat.map fun s => min (2 ^ 64 - 1) (1024 * s.kb.toNat) :=
  ⟨ofJson_splitOn_jsonLines h, fun m _ => toNat_residentBytes m⟩

/-- A line feed and what else is escaped in a mnemonic, the largest memory, and the last leap second
there is. -/
def extreme : Metric := .measured
  { id := 4294967295, pid := Int64.minValue, mnemonic := "a\n\"\\\x01\r", isMultiplex := true }
  { kb := 18446744073709551615
    observedAt := ⟨8210266876799, 1999999999, by decide, by decide, by decide, by decide⟩ }

theorem read_jsonLines_extreme :
    [extreme, .unmeasurable extreme.worker] ≠ [] ∧
      (splitOn '\n' (jsonLines [extreme, .unmeasurable extreme.worker]).toList).map
          (fun line => Report.ofJson (String.ofList line)) =
        [.ok extreme.toReport, .ok (unmeasurable extreme.worker).toReport] ∧
      extreme.toReport.residentBytes.map UInt64.toNat = some 18446744073709551615 := by
  have hne : [extreme, .unmeasurable extreme.worker] ≠ [] := List.cons_ne_nil _ _
  obtain ⟨hlines, hbytes⟩ := read_jsonLines hne
  exact ⟨hne, hlines, hbytes extreme List.mem_cons_self⟩

end Metric

end WorkerMemory
