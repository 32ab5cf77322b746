/-! # Splitting a text into parts -/

namespace WorkerMemory.Text

/-- Cuts at every separator, so that `n` separators give `n + 1` parts. -/
def splitWhere (sep : Char → Bool) : List Char → List (List Char)
  | [] => [[]]
  | c :: cs =>
    if sep c then [] :: splitWhere sep cs
    else match splitWhere sep cs with
      | [] => [[c]]
      | part :: parts => (c :: part) :: parts

def splitOn (sep : Char) : List Char → List (List Char) := splitWhere (· == sep)

/-- Cuts at the first separator only. -/
def cutAt (sep : Char) (cs : List Char) : List Char × Option (List Char) :=
  match cs.dropWhile (· != sep) with
  | [] => (cs, none)
  | _ :: rest => (cs.takeWhile (· != sep), some rest)

def joinWith (sep : Char) : List (List Char) → List Char
  | [] => []
  | [part] => part
  | part :: parts => part ++ sep :: joinWith sep parts

theorem splitWhere_ne_nil (sep : Char → Bool) (cs : List Char) : splitWhere sep cs ≠ [] := by
  cases cs with
  | nil => simp [splitWhere]
  | cons c cs =>
    rw [splitWhere]
    split
    · simp
    · split <;> simp

/-! ## Lines -/

def dropCarriageReturn (line : List Char) : List Char :=
  if line.getLast? = some '\r' then line.dropLast else line

/-- A line ends at a line feed, which a carriage return may precede; a text that ends in a line
feed has no empty line after it. -/
def lines (cs : List Char) : List (List Char) :=
  let parts := splitOn '\n' cs
  match parts.getLast? with
  | some [] => parts.dropLast.map dropCarriageReturn
  | some last => parts.dropLast.map dropCarriageReturn ++ [last]
  | none => []

end WorkerMemory.Text
