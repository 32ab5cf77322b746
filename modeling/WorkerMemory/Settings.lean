import WorkerMemory.Settings.Error
import WorkerMemory.Text.Blank

/-! # Settings of a collector -/

namespace WorkerMemory

open Text

/-- How the registry guards its workers. -/
inductive Backend where
  /-- Each worker by itself. -/
  | sharded
  /-- All of them together. -/
  | locked
  deriving DecidableEq, Repr

namespace Backend

/-- The name the settings use. -/
def name : Backend → String
  | sharded => "dashmap"
  | locked => "mutex"

/-- The name as it stands in a collector's description. -/
def label : Backend → String
  | sharded => "DashMap"
  | locked => "Mutex"

/-- Blanks around the name and the case of its letters do not matter. -/
def ofName? (value : String) : Option Backend :=
  let word := String.ofList (asciiLower (trim value.toList))
  if word = "dashmap" ∨ word = "sharded" then some sharded
  else if word = "mutex" ∨ word = "locked" then some locked
  else none

def parse (value : String) : Except SettingsError Backend :=
  match ofName? value with
  | some backend => .ok backend
  | none => .error (.unknownStorage value)

end Backend

structure Settings where
  program : String := "ps"
  intervalSecs : UInt64 := 5
  storage : String := "dashmap"
  logLevel : Option String := none
  logFile : Option String := none
  deriving DecidableEq, Repr

namespace Settings

def backend (s : Settings) : Except SettingsError Backend := Backend.parse s.storage

def validate (s : Settings) : Except SettingsError Unit := do
  if s.intervalSecs = 0 then throw .zeroInterval
  if (trim s.program.toList).isEmpty then throw .emptyProgram
  discard s.backend

/-- The time between two cycles. -/
def intervalMillis (s : Settings) : Nat := s.intervalSecs.toNat * 1000

end Settings

end WorkerMemory
