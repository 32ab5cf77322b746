import WorkerMemory.Json.Record
import WorkerMemory.Json.Writer
import WorkerMemory.Settings

/-! # Settings as JSON -/

namespace WorkerMemory

open Json

def Settings.toJson (s : Settings) : List Char := ofMembers [
  ("ps_program", ofString s.program),
  ("interval_secs", ofNat s.intervalSecs.toNat),
  ("storage", ofString s.storage),
  ("log_level", ofOption ofString s.logLevel),
  ("log_file", ofOption ofString s.logFile)]

structure PartialSettings where
  program : Option String := none
  intervalSecs : Option UInt64 := none
  storage : Option String := none
  logLevel : Option (Option String) := none
  logFile : Option (Option String) := none

namespace PartialSettings

/-- What is missing has its default. -/
def finish (p : PartialSettings) : Settings :=
  let default : Settings := {}
  { program := p.program.getD default.program
    intervalSecs := p.intervalSecs.getD default.intervalSecs
    storage := p.storage.getD default.storage
    logLevel := p.logLevel.getD default.logLevel
    logFile := p.logFile.getD default.logFile }

def jsonMembers : List (Reader.Member PartialSettings) := [
  { name := "ps_program", isSet := (·.program.isSome),
    read := fun p => return { p with program := some (← Reader.string) } },
  { name := "interval_secs", isSet := (·.intervalSecs.isSome),
    read := fun p => return { p with intervalSecs := some (← Reader.uint64) } },
  { name := "storage", isSet := (·.storage.isSome),
    read := fun p => return { p with storage := some (← Reader.string) } },
  { name := "log_level", isSet := (·.logLevel.isSome),
    read := fun p => return { p with logLevel := some (← Reader.nullable Reader.string) } },
  { name := "log_file", isSet := (·.logFile.isSome),
    read := fun p => return { p with logFile := some (← Reader.nullable Reader.string) } }]

end PartialSettings

def Settings.ofJson (text : String) : Except Fault Settings :=
  Reader.whole (Reader.record PartialSettings.jsonMembers {} (.ok ∘ PartialSettings.finish)) text

end WorkerMemory
