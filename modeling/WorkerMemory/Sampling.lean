import WorkerMemory.Log.Event
import WorkerMemory.Sampling.Request
import WorkerMemory.Sampling.Row
import WorkerMemory.SystemError
import WorkerMemory.Text.Utf8

/-! # Sampling memory with one run of `ps` -/

namespace WorkerMemory

/-- How a run of `ps` ended. -/
inductive PsRun where
  | failed (cause : SystemError)
  /-- The status is 0 on success; `ps` gives another one when a process asked for is gone. -/
  | finished (status : Nat) (output : List UInt8)

/-- What `ps` does with each list of arguments. -/
abbrev Ps := List String → PsRun

/-- Something to do with runs of `ps` in it. What `ps` answers can come from such a run alone. -/
inductive Script (α : Type) where
  | done (result : α)
  | run (args : List String) (next : PsRun → Script α)

/-- The result, and the arguments of the runs in the order in which `ps` was started. -/
def Script.exec {α : Type} (ps : Ps) : Script α → α × List (List String)
  | done result => (result, [])
  | run args next =>
    let (result, asked) := (next (ps args)).exec ps
    (result, args :: asked)

inductive SamplingError where
  | spawn (program : String) (cause : SystemError)
  | row (fault : RowFault)
  deriving DecidableEq, Repr

def SamplingError.message : SamplingError → String
  | spawn program cause => "failed to spawn \x60" ++ program ++ "\x60: " ++ cause.message
  | row fault => fault.message

structure Sampler where
  program : String := "ps"
  platform : Platform := .current
  deriving DecidableEq, Repr

/-- The memory read in one sampling, and what there is to tell about it. -/
structure Reading where
  memory : Samples := ∅
  failure : Option SamplingError := none
  events : List Log.Event := []

structure Sampling extends Reading where
  /-- The arguments of the runs of `ps`. -/
  asked : Array (List String) := #[]

namespace Sampler

def target : String := "worker_metrics::core::sampler"

def command (sampler : Sampler) (pids : List Pid) : Option (List String) :=
  (Request.on sampler.platform pids).map (sampler.program :: ·)

/-- The low byte of a wait status is 0 for a process that exited by itself. -/
def statusEvent (status : Nat) : Log.Event := {
  level := .debug
  target
  message := "ps reported missing processes"
  fields := [("status", "ExitStatus(unix_wait_status(" ++ toString (status * 256) ++ "))")] }

def rowEvent (fault : RowFault) : Log.Event :=
  { level := .warn, target, message := "Skipping ps output line: " ++ fault.message }

def failureEvent (pids : List Pid) (error : SamplingError) : Log.Event := {
  level := .warn
  target
  message := "Error while executing command: " ++ error.message
  fields := [("pids",
    "[" ++ String.intercalate ", " (pids.map fun pid => toString pid.toInt) ++ "]")] }

/-- A run that fails leaves no memory. -/
def ofRun (sampler : Sampler) (pids : List Pid) : PsRun → Reading
  | .failed cause =>
    let error := .spawn sampler.program cause
    { failure := some error, events := [failureEvent pids error] }
  | .finished status output =>
    let text := Utf8.decodeLossy output
    { memory := Row.samples text
      events := (if status = 0 then [] else [statusEvent status]) ++
        (Row.faults text).map rowEvent }

/-- `ps` is run only if some id can name a process. -/
def script (sampler : Sampler) (pids : List Pid) : Script Reading :=
  match Request.on sampler.platform pids with
  | none => .done {}
  | some args => .run args fun run => .done (sampler.ofRun pids run)

def sample (sampler : Sampler) (ps : Ps) (pids : List Pid) : Sampling :=
  let (reading, asked) := (sampler.script pids).exec ps
  { reading with asked := asked.toArray }

end Sampler

end WorkerMemory
