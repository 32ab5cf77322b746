import WorkerMemory.Worker.Spec

/-! # What is asked for on the command line -/

namespace WorkerMemory.CommandLine

inductive Command where
  /-- One cycle. -/
  | collect
  /-- Cycles at an interval. -/
  | watch
  deriving DecidableEq, Repr

inductive Argument where
  | config
  | logLevel
  | worker
  | json
  | interval
  | cycles
  | help
  | version
  deriving DecidableEq, Repr

namespace Argument

def long : Argument → String
  | config => "config"
  | logLevel => "log-level"
  | worker => "worker"
  | json => "json"
  | interval => "interval"
  | cycles => "cycles"
  | help => "help"
  | version => "version"

def short? : Argument → Option Char
  | worker => some 'w'
  | help => some 'h'
  | version => some 'V'
  | config | logLevel | json | interval | cycles => none

def takesValue : Argument → Bool
  | config | logLevel | worker | interval | cycles => true
  | json | help | version => false

/-- What can be given before a command, and after each of them. -/
def known : Option Command → List Argument
  | none => [config, logLevel, help, version]
  | some .collect => [config, logLevel, worker, json, help]
  | some .watch => [config, logLevel, worker, json, interval, cycles, help]

end Argument

/-- Why nothing is run. Help and the version are asked for; the rest is wrong usage. -/
inductive Refusal where
  | help
  | version
  /-- There is nothing on the command line. -/
  | noArguments
  | noCommand
  | unknownCommand
  | unknownArgument
  | missingValue
  | malformedValue
  | needlessValue
  | repeatedArgument
  | noWorker
  deriving DecidableEq, Repr

/-! ## What has been given -/

structure Given where
  config : Option String := none
  logLevel : Option String := none
  workers : List WorkerSpec := []
  json : Bool := false
  interval : Option UInt64 := none
  cycles : Option UInt64 := none
  deriving DecidableEq, Repr

namespace Given

def once {α : Type} (old : Option α) (parse : Except Refusal α) : Except Refusal (Option α) :=
  if old.isSome then .error .repeatedArgument else some <$> parse

def count (value : String) : Except Refusal UInt64 :=
  match Numeral.uint64? value.toList with
  | some n => .ok n
  | none => .error .malformedValue

/-- Only a worker may be given more than once. -/
def give (g : Given) (a : Argument) (value : String) : Except Refusal Given :=
  match a with
  | .config => do
    let path := if value.isEmpty then .error .missingValue else .ok value
    return { g with config := ← once g.config path }
  | .logLevel => return { g with logLevel := ← once g.logLevel (.ok value) }
  | .worker =>
    match WorkerSpec.parse value with
    | .ok spec => .ok { g with workers := g.workers ++ [spec] }
    | .error _ => .error .malformedValue
  | .interval => return { g with interval := ← once g.interval (count value) }
  | .cycles => return { g with cycles := ← once g.cycles (count value) }
  | .json | .help | .version => .error .needlessValue

/-- An argument without a value. -/
def raise (g : Given) : Argument → Except Refusal Given
  | .json => if g.json then .error .repeatedArgument else .ok { g with json := true }
  | .help => .error .help
  | .version => .error .version
  | .config | .logLevel | .worker | .interval | .cycles => .error .missingValue

end Given

/-! ## Reading arguments -/

/-- What has been given so far. The last value is judged only when the next argument has been
recognized, and may still have to come. -/
structure Progress where
  given : Given := {}
  pending : Option (Argument × Option String) := none

namespace Progress

def settle (p : Progress) : Except Refusal Given :=
  match p.pending with
  | none => .ok p.given
  | some (_, none) => .error .missingValue
  | some (a, some value) => p.given.give a value

def isWaiting (p : Progress) : Bool := p.pending.any (·.2.isNone)

def flag (p : Progress) (a : Argument) : Except Refusal Progress := do
  return { given := ← (← p.settle).raise a }

def option (p : Progress) (a : Argument) (attached : Option String) : Except Refusal Progress := do
  let given ← p.settle
  match attached with
  | some value => return { given := ← given.give a value }
  | none => return { given, pending := some (a, none) }

/-- `name` or `name=value`, two hyphens before it already taken. -/
def long (p : Progress) (known : List Argument) (cs : List Char) : Except Refusal Progress :=
  let (name, attached) := Text.cutAt '=' cs
  match known.find? (·.long.toList == name) with
  | none => .error .unknownArgument
  | some a =>
    if a.takesValue then p.option a (attached.map String.ofList)
    else if attached.isSome then .error .needlessValue
    else p.flag a

/-- Letters behind one hyphen. The rest after a letter that takes a value is the value. -/
def short (p : Progress) (known : List Argument) : List Char → Except Refusal Progress
  | [] => .ok p
  | c :: cs =>
    match known.find? (·.short? == some c) with
    | none => .error .unknownArgument
    | some a =>
      if a.takesValue then
        p.option a (match cs with
          | [] => none
          | '=' :: value => some (String.ofList value)
          | value => some (String.ofList value))
      else do
        short (← p.flag a) known cs

/-- What begins with a hyphen is never a value, unless it is a hyphen alone. -/
def take (p : Progress) (known : List Argument) (stray : Refusal) (arg : String) :
    Except Refusal Progress :=
  match arg.toList with
  | '-' :: '-' :: cs => p.long known cs
  | '-' :: c :: cs => p.short known (c :: cs)
  | _ => match p.pending with
    | some (a, none) => .ok { p with pending := some (a, some arg) }
    | _ => .error stray

end Progress

/-- The arguments after a command. Nothing may follow two hyphens alone. -/
def readCommand (c : Command) : List String → Progress → Except Refusal Given
  | [], p | ["--"], p => do
    let given ← p.settle
    if given.workers.isEmpty then throw .noWorker
    return given
  | arg :: args, p =>
    if arg = "--" then .error .unknownArgument
    else do
      readCommand c args (← p.take (Argument.known (some c)) .unknownArgument arg)

/-! ## The whole command line -/

structure Invocation where
  config : Option String
  logLevel : Option String
  command : Command
  workers : List WorkerSpec
  json : Bool
  interval : Option UInt64
  cycles : Option UInt64
  deriving DecidableEq, Repr

namespace Invocation

/-- What is given after the command counts before the same given in front of it. -/
def ofGiven (command : Command) (before after : Given) : Invocation where
  config := after.config <|> before.config
  logLevel := after.logLevel <|> before.logLevel
  command
  workers := after.workers
  json := after.json
  interval := after.interval
  cycles := after.cycles

inductive Word where
  | run (c : Command)
  | help

def word? : String → Option Word
  | "collect" => some (.run .collect)
  | "watch" => some (.run .watch)
  | "help" => some .help
  | _ => none

/-- Help can be asked for about one command. -/
def helpOn : List String → Refusal
  | [] => .help
  | [name] => if (word? name).isSome then .help else .unknownCommand
  | _ => .unknownCommand

def refuse (p : Progress) : Except Refusal Invocation := do
  let given ← p.settle
  throw (if given.config.isNone && given.logLevel.isNone then .noArguments else .noCommand)

/-- Faults after the command are found before those in front of it. -/
def enter (c : Command) (p : Progress) (args : List String) : Except Refusal Invocation := do
  let after ← readCommand c args {}
  return ofGiven c (← p.settle) after

def read : List String → Progress → Except Refusal Invocation
  | [], p => refuse p
  | arg :: args, p =>
    match if p.isWaiting then none else word? arg with
    | some (.run c) => enter c p args
    | some .help => .error (helpOn args)
    | none =>
      if arg = "--" then
        match args.head? with
        | none => refuse p
        | some name =>
          .error (if (word? name).isSome then .unknownArgument else .unknownCommand)
      else do
        read args (← p.take (Argument.known none) .unknownCommand arg)

def parse (args : List String) : Except Refusal Invocation := read args {}

end Invocation

end WorkerMemory.CommandLine
