import WorkerMemory.CommandLine.Run

/-! # The program

What the machine says about processes is read from `/proc`, in the form that `ps` prints it. -/

namespace WorkerMemory.Main

open CommandLine

/-! ## Reading the machine -/

/-- Nothing if the file cannot be read. -/
def bytes? (path : String) : IO (Option (List UInt8)) := do
  try
    return some (← IO.FS.readBinFile path).toList
  catch _ =>
    return none

def text (path : String) : IO String := do
  return String.ofList (Utf8.decodeLossy ((← bytes? path).getD []))

def environment : IO (List (String × String)) := do
  let parts := (← text "/proc/self/environ").splitOn "\x00"
  return parts.filterMap fun part =>
    let (name, value) := Text.cutAt '=' part.toList
    value.map fun value => (String.ofList name, String.ofList value)

/-- What is at a path; a directory is what can be opened but not read. -/
def nodeAt? (path : String) : IO (Option FileNode) := do
  match ← bytes? path with
  | some bytes => return some (.file (String.ofList (Utf8.decodeLossy bytes)))
  | none =>
    try
      discard (IO.FS.Handle.mk path .read)
      return some .directory
    catch _ =>
      return none

/-- The files among some paths. -/
def files (paths : List String) : IO Files := do
  let found ← paths.filterMapM fun path => do
    return (← nodeAt? path).map fun node => (path, node)
  return Files.ofList found

def numbers (s : String) : List Int64 := (Text.fields s.toList).filterMap Numeral.int64?

def isRunning (pid : Pid) : IO Bool := do
  return (← bytes? ("/proc/" ++ toString pid.toInt ++ "/stat")).isSome

def children (pid : Pid) : IO (List Pid) := do
  let directory := "/proc/" ++ toString pid.toInt
  return numbers (← text (directory ++ "/task/" ++ toString pid.toInt ++ "/children"))

/-- The links below some processes, so many generations deep. -/
def linksBelow : (depth : Nat) → List Pid → IO (List Link)
  | 0, _ => return []
  | depth + 1, pids => do
    let found ← pids.mapM fun pid => do
      return (← children pid).map fun child => { pid := child, parent := some pid : Link }
    let links := found.flatten
    if links.isEmpty then return []
    else return links ++ (← linksBelow depth (links.map (·.pid)))

def table (roots : List Pid) : IO ProcessTable := do
  let alive ← roots.filterM fun pid => do
    if 0 < pid then isRunning pid else return false
  let own := alive.map fun pid => { pid, parent := none : Link }
  return { links := own ++ (← linksBelow 64 alive) }

/-- A row for a process that has memory. -/
def row? (pid : Pid) : IO (Option String) := do
  let status := (← text ("/proc/" ++ toString pid.toInt ++ "/status")).splitOn "\n"
  return (status.find? (·.startsWith "VmRSS:")).bind fun line =>
    (numbers line).head?.map fun kb => toString pid.toInt ++ " " ++ toString kb.toInt

/-- The rows that `ps` would print now. -/
def ps (table : ProcessTable) : IO Ps := do
  let rows ← table.links.filterMapM fun link => row? link.pid
  let output := String.intercalate "\n" ("PID RSS" :: rows) ++ "\n"
  return fun _ => .finished 0 output.toUTF8.toList

/-- Seconds since 1970: those at the start of the machine, and those since. -/
def now : IO Instant := do
  let boot := ((← text "/proc/stat").splitOn "\n").find? (·.startsWith "btime ")
  let start := (boot.bind fun line => (numbers line).head?).getD 0
  let running := (((← text "/proc/uptime").splitOn ".").head?.bind fun s => (numbers s).head?).getD 0
  return (Instant.ofParts? (start.toInt + running.toInt) 0).getD .epoch

def isPs (program : String) : Bool := program == "ps"

def scene (program : String) (roots : List Pid) : IO Session.Scene := do
  let table ← table roots
  let ps : Ps ← if isPs program then ps table else pure fun _ => .failed .noSuchFile
  let machine : Machine := { resolve := table.owners, sample := Sampler.sample { program } ps }
  return { machine, now := ← now }

/-! ## Telling -/

def tell (setup : Setup) (told : List Told) : IO Unit := do
  for item in told.filter setup.letsThrough do
    match item with
    | .output text => IO.println text
    | .notice line => IO.eprintln line
    | .event e =>
      IO.eprintln e.line
      match setup.log with
      | some log =>
        let handle ← IO.FS.Handle.mk log.path .append
        handle.putStrLn (String.ofList (Rfc3339.print (← now)) ++ " " ++ e.line)
      | none => pure ()

/-! ## Running -/

variable {σ : Type} [WorkerStore σ]

/-- Tells what is new and forgets it. -/
def flush (setup : Setup) (s : Session σ) : IO (Session σ) := do
  tell setup s.told
  return { s with told := [] }

def oneCycle (setup : Setup) (i : Invocation) (s : Session σ) : IO (Session σ) := do
  let roots := (WorkerStore.snapshot s.store).map (·.pid)
  flush setup (s.cycle i.json (← scene setup.settings.program roots))

partial def cycles (setup : Setup) (i : Invocation) (completed : Nat) (s : Session σ) :
    IO (Session σ) := do
  let s ← oneCycle setup i s
  match s.ending? i.cycles (completed + 1) with
  | some told => flush setup (s.tell told)
  | none =>
    IO.sleep (UInt32.ofNat (min (setup.periodSecs i * 1000) (UInt32.size - 1)))
    cycles setup i (completed + 1) s

def runOn (setup : Setup) (i : Invocation) (store : σ) : IO Unit := do
  let s ← flush setup (Session.begin i store)
  let s ← match i.command with
    | .collect => oneCycle setup i s
    | .watch => cycles setup i 0 s
  discard (flush setup s.shutDown)

/-- Makes the directories above the log file. -/
def makeLogDirectories (log : LogFile) : IO Unit := do
  let parts := (Files.components log.path).dropLast
  unless parts.isEmpty do
    IO.FS.createDirAll (Files.tidy (String.intercalate "/" parts))

/-- The paths that a settings file may be found at. -/
def settingsPaths (path : String) : List String :=
  path :: SettingsFormat.extensions.map (path ++ "." ++ ·)

def surroundings (i : Invocation) : IO Surroundings := do
  let environment ← environment
  let forSettings ← files (i.config.toList.flatMap settingsPaths)
  let logPath := (Settings.load forSettings environment i.config).toOption.bind (·.logFile)
  let forLog ← files logPath.toList
  return { files := forSettings ++ forLog, environment, hasProgram := isPs, scenes := fun _ => [] }

def refuse (outcome : Outcome) : IO UInt32 := do
  IO.print outcome.outputText
  for line in outcome.errorLines do
    IO.eprintln line
  return UInt32.ofNat outcome.status

def run (args : List String) : IO UInt32 := do
  match Invocation.parse args with
  | .error refusal => refuse (refused refusal)
  | .ok i =>
    let around ← surroundings i
    match Setup.prepare around i with
    | .error cause => refuse (failed cause)
    | .ok setup =>
      setup.log.forM makeLogDirectories
      tell setup ((setup.events around).map Told.event)
      match setup.backend with
      | .sharded => runOn setup i (WorkerStore.empty : ShardedStore)
      | .locked => runOn setup i (WorkerStore.empty : LockedStore)
      return 0

end WorkerMemory.Main

def main (args : List String) : IO UInt32 := WorkerMemory.Main.run args
