import Std.Data.TreeMap
import WorkerMemory.ProcessTable

/-! # Which root owns a process -/

namespace WorkerMemory

/-- From every process below a live root, and the root itself, to that root. -/
abbrev Ownership := Std.TreeMap Pid Pid

namespace ProcessTable

/-- A root takes everything below it, also from the roots before it. One that is not running takes
nothing. -/
def claim (table : ProcessTable) (owners : Ownership) (root : Pid) : Ownership :=
  if table.contains root then
    ((table.descendants root).foldl (fun owners pid => owners.insert pid root) owners).insert
      root root
  else owners

/-- Where two roots reach one process the later root owns it. -/
def owners (table : ProcessTable) (roots : List Pid) : Ownership :=
  roots.foldl table.claim ∅

end ProcessTable

end WorkerMemory
