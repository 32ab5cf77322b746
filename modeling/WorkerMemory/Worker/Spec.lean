import WorkerMemory.Text.Numeral
import WorkerMemory.Text.Quoted
import WorkerMemory.Text.Split
import WorkerMemory.Worker

/-! # Workers written as `ID:PID` or `ID:PID:MNEMONIC` -/

namespace WorkerMemory

open Text Numeral

structure WorkerSpec where
  id : WorkerId
  pid : Pid
  mnemonic : String
  deriving DecidableEq, Repr

/-- The first part of a specification that is at fault. -/
inductive SpecFault where
  | missingId
  | invalidId
  | missingPid
  | invalidPid
  deriving DecidableEq, Repr

def SpecFault.reason : SpecFault → String
  | missingId => "missing worker id"
  | invalidId => "worker id is not a number"
  | missingPid => "missing process id"
  | invalidPid => "process id is not a number"

structure InvalidSpec where
  spec : String
  reason : String
  deriving DecidableEq, Repr

def InvalidSpec.message (e : InvalidSpec) : String :=
  "invalid worker spec " ++ quote e.spec ++ ": " ++ e.reason

namespace WorkerSpec

/-- The mnemonic is everything after the second colon, further colons included. -/
def read (cs : List Char) : Except SpecFault WorkerSpec :=
  let (idText, afterId) := cutAt ':' cs
  if idText.isEmpty then .error .missingId
  else match uint32? idText with
    | none => .error .invalidId
    | some id => match afterId with
      | none => .error .missingPid
      | some rest =>
        let (pidText, mnemonic) := cutAt ':' rest
        match int64? pidText with
        | none => .error .invalidPid
        | some pid => .ok { id, pid, mnemonic := String.ofList (mnemonic.getD []) }

def parse (spec : String) : Except InvalidSpec WorkerSpec :=
  (read spec.toList).mapError fun fault => { spec, reason := fault.reason }

def toWorker (spec : WorkerSpec) : Worker :=
  { id := spec.id, pid := spec.pid, mnemonic := spec.mnemonic }

end WorkerSpec

end WorkerMemory
