/-! # Platforms -/

namespace WorkerMemory

inductive Platform where
  | linux
  | macos
  | windows
  | other
  deriving DecidableEq, Repr

namespace Platform

def name : Platform → String
  | linux => "linux"
  | macos => "macos"
  | windows => "windows"
  | other => "other"

/-- The name as it stands in a collector's description. -/
def label : Platform → String
  | linux => "Linux"
  | macos => "MacOs"
  | windows => "Windows"
  | other => "Other"

/-- Memory is read with `ps`, which is known to work on two platforms. -/
def supportsAccounting : Platform → Bool
  | linux | macos => true
  | windows | other => false

/-- The platform this program runs on. -/
def current : Platform := linux

end Platform

end WorkerMemory
