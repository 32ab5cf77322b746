import WorkerMemory.Json.Record
import WorkerMemory.Json.Writer
import WorkerMemory.Worker

/-! # Workers as JSON -/

namespace WorkerMemory

open Json

/-- The members of a worker's object, which other objects may take in. -/
def Worker.jsonMembers (w : Worker) : List (String × List Char) := [
  ("worker_id", ofNat w.id.toNat),
  ("process_id", ofInt w.pid.toInt),
  ("mnemonic", ofString w.mnemonic),
  ("worker_key_hash", ofInt w.keyHash.toInt),
  ("is_multiplex", ofBool w.isMultiplex),
  ("is_sandboxed", ofBool w.isSandboxed)]

def Worker.toJson (w : Worker) : List Char := ofMembers w.jsonMembers

/-- A worker of which some members may still be missing. -/
structure PartialWorker where
  id : Option WorkerId := none
  pid : Option Pid := none
  mnemonic : Option String := none
  keyHash : Option Int64 := none
  isMultiplex : Option Bool := none
  isSandboxed : Option Bool := none

namespace PartialWorker

/-- Both ids have to be there. -/
def finish (p : PartialWorker) : Except Fault Worker := do
  let id ← Reader.required p.id
  let pid ← Reader.required p.pid
  return {
    id, pid
    mnemonic := p.mnemonic.getD ""
    keyHash := p.keyHash.getD 0
    isMultiplex := p.isMultiplex.getD false
    isSandboxed := p.isSandboxed.getD false }

def jsonMembers : List (Reader.Member PartialWorker) := [
  { name := "worker_id", isSet := (·.id.isSome),
    read := fun p => return { p with id := some (← Reader.uint32) } },
  { name := "process_id", isSet := (·.pid.isSome),
    read := fun p => return { p with pid := some (← Reader.int64) } },
  { name := "mnemonic", isSet := (·.mnemonic.isSome),
    read := fun p => return { p with mnemonic := some (← Reader.string) } },
  { name := "worker_key_hash", isSet := (·.keyHash.isSome),
    read := fun p => return { p with keyHash := some (← Reader.int64) } },
  { name := "is_multiplex", isSet := (·.isMultiplex.isSome),
    read := fun p => return { p with isMultiplex := some (← Reader.bool) } },
  { name := "is_sandboxed", isSet := (·.isSandboxed.isSome),
    read := fun p => return { p with isSandboxed := some (← Reader.bool) } }]

end PartialWorker

def Worker.ofJson (text : String) : Except Fault Worker :=
  Reader.whole (Reader.record PartialWorker.jsonMembers {} PartialWorker.finish) text

end WorkerMemory
