import WorkerMemory.CommandLine.Session
import WorkerMemory.Log.Filter
import WorkerMemory.Settings.Load

/-! # A run of the program -/

namespace WorkerMemory.CommandLine

/-- What the program finds around it. -/
structure Surroundings where
  files : Files
  /-- The variables of the environment. -/
  environment : List (String × String)
  hasProgram : (program : String) → Bool
  /-- What each cycle finds, if a program is used for sampling. -/
  scenes : (program : String) → List Session.Scene

/-- A file that events are also written to, and what it held before. -/
structure LogFile where
  path : String
  kept : String
  deriving DecidableEq, Repr

structure Outcome where
  status : Nat
  told : List Told := []
  asked : List (List String) := []
  log : Option LogFile := none

/-! ## Before the first cycle -/

def versionLine : String := "worker-metrics 0.1.0"

def usage : String :=
  "usage: worker-metrics [--config PATH] [--log-level LEVEL] collect|watch -w ID:PID[:MNEMONIC]... " ++
    "[--json] [--interval SECS] [--cycles N]"

/-- Wrong usage has a status of its own. -/
def refused : Refusal → Outcome
  | .version => { status := 0, told := [.output versionLine] }
  | .help => { status := 0, told := [.output usage] }
  | _ => { status := 2, told := [.notice usage] }

def failed (cause : String) : Outcome :=
  { status := 1, told := [.notice ("error: " ++ cause)] }

/-- Directories above the log file are made if they are missing. -/
def openLog (files : Files) (path : String) : Except SystemError LogFile := do
  let files ← files.makeDirectories (Files.components path).dropLast
  return { path, kept := ← files.openForAppending path }

/-- What has been settled before the first cycle. -/
structure Setup where
  settings : Settings
  backend : Backend
  filter : Log.Filter
  log : Option LogFile

namespace Setup

/-- The level on the command line counts before the one in the settings. -/
def chooseFilter (around : Surroundings) (settings : Settings) (i : Invocation) :
    Except String Log.Filter :=
  let level := i.logLevel <|> settings.logLevel
  (Log.Filter.choose level (around.environment.lookup "RUST_LOG")).mapError Log.Directive.Fault.chain

def openLogOf (around : Surroundings) (settings : Settings) : Except String (Option LogFile) :=
  match settings.logFile with
  | none => .ok none
  | some path => ((openLog around.files path).map some).mapError SystemError.message

def prepare (around : Surroundings) (i : Invocation) : Except String Setup := do
  let settings ← (Settings.load around.files around.environment i.config).mapError SettingsError.chain
  let backend ← settings.backend.mapError SettingsError.chain
  let filter ← chooseFilter around settings i
  return { settings, backend, filter, log := ← openLogOf around settings }

def events (setup : Setup) (around : Surroundings) : List Log.Event :=
  { level := .debug
    target := "worker_metrics::utils::logger"
    message := "Logger initialized" } ::
  if around.hasProgram setup.settings.program then []
  else [{
    level := .warn
    target := "worker_metrics"
    message := "accounting tool not found, every worker will be reported unmeasurable"
    fields := [("program", setup.settings.program)] }]

/-- Seconds between two cycles; none given, or 0, leaves it to the settings. -/
def periodSecs (setup : Setup) (i : Invocation) : Nat :=
  ((i.interval.filter (0 < ·)).getD setup.settings.intervalSecs).toNat

/-- The filter decides about events only. -/
def letsThrough (setup : Setup) : Told → Bool
  | .event e => setup.filter.allows e
  | .output _ | .notice _ => true

end Setup

/-! ## The run -/

def session (backend : Backend) (i : Invocation) (scenes : List Session.Scene) :
    List Told × List (List String) :=
  match backend with
  | .sharded =>
    let s := Session.run i scenes (WorkerStore.empty : ShardedStore)
    (s.told, s.asked)
  | .locked =>
    let s := Session.run i scenes (WorkerStore.empty : LockedStore)
    (s.told, s.asked)

def start (around : Surroundings) (i : Invocation) : Except String Outcome := do
  let setup ← Setup.prepare around i
  let (told, asked) := session setup.backend i (around.scenes setup.settings.program)
  let told := (setup.events around).map Told.event ++ told
  return { status := 0, told := told.filter setup.letsThrough, asked, log := setup.log }

def run (around : Surroundings) (args : List String) : Outcome :=
  match Invocation.parse args with
  | .error refusal => refused refusal
  | .ok i => match start around i with
    | .ok outcome => outcome
    | .error cause => failed cause

namespace Outcome

/-- The lines of events, which go to standard error and into the log. -/
def eventLines (o : Outcome) : List String :=
  o.told.filterMap fun
    | .event e => some e.line
    | .output _ | .notice _ => none

def errorLines (o : Outcome) : List String :=
  o.told.filterMap fun
    | .event e => some e.line
    | .notice line => some line
    | .output _ => none

/-- Every text on standard output ends its line. -/
def outputText (o : Outcome) : String :=
  String.join (o.told.filterMap fun
    | .output text => some (text ++ "\n")
    | .event _ | .notice _ => none)

end Outcome

end WorkerMemory.CommandLine
