import WorkerMemory.Sampling
import WorkerMemory.Settings
import WorkerMemory.Worker.Spec

/-! # All failures of the program -/

namespace WorkerMemory

inductive ProcessTableError where
  | unsupportedPlatform
  deriving DecidableEq, Repr

def ProcessTableError.message : ProcessTableError → String
  | unsupportedPlatform => "Unsupported platform"

inductive Failure where
  | settings (cause : SettingsError)
  | processTable (cause : ProcessTableError)
  | sampling (cause : SamplingError)
  | spec (cause : InvalidSpec)
  | value (cause : InvalidValue)
  | system (cause : SystemError)
  deriving DecidableEq, Repr

namespace Failure

def message : Failure → String
  | settings cause => "Configuration error: " ++ cause.message
  | processTable cause => "Process tree error: " ++ cause.message
  | sampling cause => "Sampler error: " ++ cause.message
  | spec cause => "Registry error: " ++ cause.message
  | value cause => "Validation error: " ++ cause.message
  | system cause => "I/O error: " ++ cause.message

/-- Whether the next cycle may go well. -/
def isTransient : Failure → Bool
  | processTable _ | sampling _ | system _ => true
  | settings _ | spec _ | value _ => false

end Failure

end WorkerMemory
