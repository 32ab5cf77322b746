import WorkerMemory.Time.Date

/-! # Points in time -/

namespace WorkerMemory

/-- A point in universal time. Nanoseconds beyond a full second belong to a leap second, which
only the last second of a minute has. -/
structure Instant where
  /-- Since the start of 1970, leap seconds not counted. -/
  seconds : Int
  nanos : Nat
  /-- From the start of the year -262143. -/
  first_le : -8334601228800 ≤ seconds
  /-- To the end of the year 262142. -/
  le_last : seconds ≤ 8210266876799
  nanos_lt : nanos < 2000000000
  leap : 1000000000 ≤ nanos → seconds % 60 = 59
  deriving DecidableEq

namespace Instant

/-- The start of 1970. -/
def epoch : Instant := ⟨0, 0, by decide, by decide, by decide, by decide⟩

def ofParts? (seconds : Int) (nanos : Nat) : Option Instant :=
  if h : -8334601228800 ≤ seconds ∧ seconds ≤ 8210266876799 ∧ nanos < 2000000000 ∧
      (1000000000 ≤ nanos → seconds % 60 = 59) then
    some ⟨seconds, nanos, h.1, h.2.1, h.2.2.1, h.2.2.2⟩
  else none

def date (t : Instant) : Date := Date.ofDays (t.seconds / 86400)

def secondOfDay (t : Instant) : Nat := (t.seconds % 86400).toNat

def hour (t : Instant) : Nat := t.secondOfDay / 3600

def minute (t : Instant) : Nat := t.secondOfDay / 60 % 60

def isLeap (t : Instant) : Bool := 1000000000 ≤ t.nanos

/-- A leap second counts as second 60 of its minute. -/
def second (t : Instant) : Nat := t.secondOfDay % 60 + if t.isLeap then 1 else 0

def subsecond (t : Instant) : Nat := t.nanos % 1000000000

end Instant

end WorkerMemory
