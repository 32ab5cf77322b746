import WorkerMemory.Text.Quoted

/-! # What can be wrong with the settings -/

namespace WorkerMemory

open Text

/-- A value that does not fit its setting. -/
structure MisfitValue where
  found : String
  expected : String
  key : String
  /-- The file or other source that a plain value comes from. -/
  origin : Option String
  deriving DecidableEq, Repr

def MisfitValue.message (m : MisfitValue) : String :=
  "invalid type: " ++ m.found ++ ", expected " ++ m.expected ++ " for key \x60" ++ m.key ++ "\x60" ++
    m.origin.elim "" (" in " ++ ·)

inductive LoadError where
  | misfit (value : MisfitValue)
  /-- The text of the file is not in its format, or holds no table. -/
  | malformedFile (name : String)
  /-- The name of the file does not tell its format. -/
  | unknownFormat (name : String)
  /-- What is there is no file. -/
  | notAFile (name : String)
  | described (text : String)
  deriving DecidableEq, Repr

def LoadError.message : LoadError → String
  | misfit value => value.message
  | malformedFile name => "malformed configuration file in " ++ name
  | unknownFormat name =>
    "configuration file \"" ++ name ++ "\" is not of a registered file format"
  | notAFile name => "configuration file \"" ++ name ++ "\" not found"
  | described text => text

inductive SettingsError where
  | fileNotFound (path : String)
  | load (cause : LoadError)
  | zeroInterval
  | emptyProgram
  | unknownStorage (value : String)
  deriving DecidableEq, Repr

def SettingsError.message : SettingsError → String
  | fileNotFound path => "Config file not found: " ++ path
  | load cause => "failed to load configuration: " ++ cause.message
  | zeroInterval => "interval_secs must be greater than zero"
  | emptyProgram => "ps_program cannot be empty"
  | unknownStorage value =>
    "unknown storage backend " ++ quote value ++ ". Allowed values: dashmap, mutex"

/-- The message, and after it the message of what lies behind it. -/
def SettingsError.chain (e : SettingsError) : String :=
  match e with
  | load cause => e.message ++ ": " ++ cause.message
  | _ => e.message

end WorkerMemory
