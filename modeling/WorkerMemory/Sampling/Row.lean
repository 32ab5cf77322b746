import Std.Data.TreeMap
import WorkerMemory.Text.Blank
import WorkerMemory.Text.Numeral
import WorkerMemory.Text.Quoted
import WorkerMemory.Usage

/-! # Rows of `ps` output: a process id and its resident memory -/

namespace WorkerMemory

open Text Numeral

inductive RowFault where
  | fieldCount (line : String) (count : Nat)
  | invalidNumber (line value : String)
  deriving DecidableEq, Repr

def RowFault.message : RowFault → String
  | fieldCount line count =>
    "unexpected field count " ++ toString count ++ " in line " ++ quote line
  | invalidNumber line value => "invalid number " ++ quote value ++ " in line " ++ quote line

namespace Row

/-- Of two numbers at fault the first is named. -/
def read (line : List Char) : Except RowFault (Pid × KiB) :=
  match fields line with
  | [pidText, kbText] =>
    match int64? pidText, uint64? kbText with
    | some pid, some kb => .ok (pid, kb)
    | none, _ => .error (.invalidNumber (String.ofList line) (String.ofList pidText))
    | some _, none => .error (.invalidNumber (String.ofList line) (String.ofList kbText))
  | parts => .error (.fieldCount (String.ofList line) parts.length)

def parse (line : String) : Except RowFault (Pid × KiB) := read line.toList

/-- The rows after the header, each on its own. -/
def readAll (output : List Char) : List (Except RowFault (Pid × KiB)) :=
  ((lines output).drop 1).map read

/-- A later row replaces an earlier one of the same process; a row at fault counts for nothing. -/
def record (memory : Samples) : Except RowFault (Pid × KiB) → Samples
  | .ok (pid, kb) => memory.insert pid kb
  | .error _ => memory

def samples (output : List Char) : Samples := (readAll output).foldl record ∅

def faults (output : List Char) : List RowFault :=
  (readAll output).filterMap fun
    | .ok _ => none
    | .error fault => some fault

end Row

end WorkerMemory
