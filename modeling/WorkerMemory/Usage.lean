import WorkerMemory.Ownership
import WorkerMemory.Time.Instant

/-! # Memory used by a root and everything below it -/

namespace WorkerMemory

/-- Resident memory in KiB. -/
abbrev KiB := UInt64

/-- The sampled memory of each process. -/
abbrev Samples := Std.TreeMap Pid KiB

/-- Memory of one worker at one time. -/
structure Stat where
  kb : KiB
  observedAt : Instant
  deriving DecidableEq

/-! ## Sums that stop at the largest value -/

def saturating (n : Nat) : UInt64 := UInt64.ofNat (min n (UInt64.size - 1))

def saturatingAdd (a b : UInt64) : UInt64 := saturating (a.toNat + b.toNat)

theorem toNat_saturating (n : Nat) : (saturating n).toNat = min n (UInt64.size - 1) := by
  rw [saturating, UInt64.toNat_ofNat']
  exact Nat.mod_eq_of_lt (Nat.lt_of_le_of_lt (Nat.min_le_right ..) (by decide))

def Stat.bytes (s : Stat) : UInt64 := saturating (s.kb.toNat * 1024)

/-! ## Totals -/

/-- A sample counts for the owner of its process; one without an owner counts for nobody. -/
def addSample (owners : Ownership) (totals : Samples) (sample : Pid × KiB) : Samples :=
  match owners[sample.1]? with
  | none => totals
  | some root => totals.insert root (saturatingAdd (totals.getD root 0) sample.2)

/-- The sampled memory of every root that has a sample at all. -/
def totals (owners : Ownership) (samples : List (Pid × KiB)) : Samples :=
  samples.foldl (addSample owners) ∅

/-- All stats of one survey are taken at the same time. -/
def usage (owners : Ownership) (samples : Samples) (now : Instant) : Std.TreeMap Pid Stat :=
  (totals owners samples.toList).map fun _ kb => { kb, observedAt := now }

end WorkerMemory
