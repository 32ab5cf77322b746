import WorkerMemory.Platform
import WorkerMemory.Text.Numeral
import WorkerMemory.Text.Split
import WorkerMemory.Worker

/-! # What `ps` is asked for -/

namespace WorkerMemory.Request

open Text

/-- The ids that can name a process, in ascending order and each once. -/
def namable (pids : List Pid) : List Pid :=
  ((pids.filter (0 < ·)).mergeSort (· ≤ ·)).eraseDups

def columns : String := "pid,rss"

/-- The arguments that ask for the memory of some processes; none if no id names a process. -/
def arguments (pids : List Pid) : Option (List String) :=
  match namable pids with
  | [] => none
  | named =>
    let list := joinWith ',' (named.map fun pid => Numeral.ofInt pid.toInt)
    some ["-o", columns, "-p", String.ofList list]

/-- Nothing is asked where `ps` is not known to work. -/
def on (platform : Platform) (pids : List Pid) : Option (List String) :=
  if platform.supportsAccounting then arguments pids else none

end WorkerMemory.Request
