import WorkerMemory.Json.Value
import WorkerMemory.Metric
import WorkerMemory.Time.Rfc3339
import WorkerMemory.Worker.Json

/-! # Stats and reports as JSON -/

namespace WorkerMemory

open Json

def Instant.toJson (t : Instant) : List Char := ofChars (Rfc3339.print t)

/-! ## Stats -/

def Stat.toJson (s : Stat) : List Char :=
  ofMembers [("used_memory_kb", ofNat s.kb.toNat), ("collected_at", s.observedAt.toJson)]

structure PartialStat where
  kb : Option KiB := none
  observedAt : Option Instant := none

namespace PartialStat

def finish (p : PartialStat) : Except Fault Stat := do
  return { kb := ← Reader.required p.kb, observedAt := ← Reader.required p.observedAt }

def jsonMembers : List (Reader.Member PartialStat) := [
  { name := "used_memory_kb", isSet := (·.kb.isSome),
    read := fun p => return { p with kb := some (← Reader.uint64) } },
  { name := "collected_at", isSet := (·.observedAt.isSome),
    read := fun p => return { p with observedAt := some (← Reader.parsed Rfc3339.parse) } }]

end PartialStat

def Stat.ofJson (text : String) : Except Fault Stat :=
  Reader.whole (Reader.record PartialStat.jsonMembers {} PartialStat.finish) text

/-! ## Reports -/

/-- The worker's members come first, and what is not known is left out. -/
def Report.toJson (r : Report) : List Char :=
  ofMembers (r.worker.jsonMembers ++ [("measurable", ofBool r.measurable)] ++
    (r.residentKb.map fun kb => ("resident_memory_kb", ofNat kb.toNat)).toList ++
    (r.residentBytes.map fun n => ("resident_memory_bytes", ofNat n.toNat)).toList ++
    (r.observedAt.map fun t => ("observed_at", t.toJson)).toList)

/-- The worker's members are kept as they are until the whole report has been read. -/
structure PartialReport where
  worker : List (String × Value) := []
  measurable : Option Bool := none
  residentKb : Option (Option KiB) := none
  residentBytes : Option (Option UInt64) := none
  observedAt : Option (Option Instant) := none

namespace PartialReport

def fitting {α : Type} (fit? : Int → Option α) : Value → Except Fault α
  | .number (.int n) => (fit? n).elim (.error .mismatched) .ok
  | _ => .error .mismatched

def string : Value → Except Fault String
  | .string s => .ok s
  | _ => .error .mismatched

def bool : Value → Except Fault Bool
  | .bool b => .ok b
  | _ => .error .mismatched

def once {α : Type} (old : Option α) (new : Except Fault α) : Except Fault (Option α) :=
  if old.isSome then .error .mismatched else some <$> new

/-- Takes up one of the members kept; those of other names count for nothing. -/
def addMember (p : PartialWorker) (member : String × Value) : Except Fault PartialWorker := do
  let (name, v) := member
  if name = "worker_id" then
    return { p with id := ← once p.id (fitting Integer.uint32? v) }
  else if name = "process_id" then
    return { p with pid := ← once p.pid (fitting Integer.int64? v) }
  else if name = "mnemonic" then return { p with mnemonic := ← once p.mnemonic (string v) }
  else if name = "worker_key_hash" then
    return { p with keyHash := ← once p.keyHash (fitting Integer.int64? v) }
  else if name = "is_multiplex" then
    return { p with isMultiplex := ← once p.isMultiplex (bool v) }
  else if name = "is_sandboxed" then
    return { p with isSandboxed := ← once p.isSandboxed (bool v) }
  else return p

def finish (p : PartialReport) : Except Fault Report := do
  let measurable ← Reader.required p.measurable
  let worker ← (← p.worker.reverse.foldlM addMember {}).finish
  return {
    worker, measurable
    residentKb := p.residentKb.getD none
    residentBytes := p.residentBytes.getD none
    observedAt := p.observedAt.getD none }

def jsonMembers : List (Reader.Member PartialReport) := [
  { name := "measurable", isSet := (·.measurable.isSome),
    read := fun p => return { p with measurable := some (← Reader.bool) } },
  { name := "resident_memory_kb", isSet := (·.residentKb.isSome),
    read := fun p => return { p with residentKb := some (← Reader.nullable Reader.uint64) } },
  { name := "resident_memory_bytes", isSet := (·.residentBytes.isSome),
    read := fun p => return { p with residentBytes := some (← Reader.nullable Reader.uint64) } },
  { name := "observed_at", isSet := (·.observedAt.isSome),
    read := fun p => return { p with
      observedAt := some (← Reader.nullable (Reader.parsed Rfc3339.parse)) } }]

/-- A report is always an object. -/
def read : Reader Report :=
  Reader.object jsonMembers
    (fun key p => return { p with worker := (key, ← Reader.value 1) :: p.worker }) {} finish

end PartialReport

def Report.ofJson (text : String) : Except Fault Report := Reader.whole PartialReport.read text

/-! ## Lines -/

/-- One report to a line. -/
def Metric.jsonLines (metrics : List Metric) : String :=
  String.ofList (Text.joinWith '\n' (metrics.map fun m => m.toReport.toJson))

end WorkerMemory
