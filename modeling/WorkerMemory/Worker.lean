/-! # Workers -/

namespace WorkerMemory

/-- The identity a worker keeps, whatever process it runs in. -/
abbrev WorkerId := UInt32

/-- Signed, because a caller may hand over a placeholder that names no process. -/
abbrev Pid := Int64

structure Worker where
  id : WorkerId
  pid : Pid
  mnemonic : String := ""
  keyHash : Int64 := 0
  isMultiplex : Bool := false
  isSandboxed : Bool := false
  deriving DecidableEq, Repr

/-- What is wrong with a value that was handed over. -/
structure InvalidValue where
  message : String
  field : Option String := none
  value : Option String := none
  deriving DecidableEq, Repr

namespace Worker

/-- Only positive ids name a process. -/
def validate (w : Worker) : Except InvalidValue Unit :=
  if w.pid ≤ 0 then
    .error {
      message := "process id must be positive"
      field := some "worker.process_id"
      value := some (toString w.pid.toInt) }
  else .ok ()

theorem validate_eq_ok_iff (w : Worker) : w.validate = .ok () ↔ 0 < w.pid := by
  rw [validate]
  split <;> simp_all [Int64.not_le]

end Worker

end WorkerMemory
