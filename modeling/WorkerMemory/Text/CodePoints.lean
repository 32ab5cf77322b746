/-! # Sets of code points -/

namespace WorkerMemory.Text

/-- Membership in a set given by its ranges, both ends included. -/
def isIn (ranges : Array (Nat × Nat)) (c : Char) : Bool :=
  ranges.any fun (first, last) => first ≤ c.toNat && c.toNat ≤ last

end WorkerMemory.Text
