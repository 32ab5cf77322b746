import WorkerMemory.Text.Split

/-! # Blank characters, fields and trimming -/

namespace WorkerMemory.Text

/-- The Unicode property `White_Space`. -/
def isBlank (c : Char) : Bool :=
  let n := c.toNat
  (0x9 ≤ n && n ≤ 0xD) || n == 0x20 || n == 0x85 || n == 0xA0 || n == 0x1680 ||
    (0x2000 ≤ n && n ≤ 0x200A) || n == 0x2028 || n == 0x2029 || n == 0x202F || n == 0x205F ||
    n == 0x3000

/-- The parts between runs of blanks, none of them empty. -/
def fields (cs : List Char) : List (List Char) :=
  (splitWhere isBlank cs).filter (!·.isEmpty)

def trimLeft (cs : List Char) : List Char := cs.dropWhile isBlank

def trim (cs : List Char) : List Char := (trimLeft (trimLeft cs).reverse).reverse

/-! ## Letter case -/

/-- Lower case of the ASCII letters; every other character stays. -/
def asciiLower (cs : List Char) : List Char := cs.map Char.toLower

/-- The Kelvin sign is the only character beyond ASCII whose lower case is an ASCII letter. -/
def letterLower (c : Char) : Char := if c = '\u212a' then 'k' else c.toLower

/-- Lower case as far as a comparison with an ASCII word can tell. -/
def lower (cs : List Char) : List Char := cs.map letterLower

theorem isBlank_eq_false_of_isDigit {c : Char} (h : c.isDigit) : isBlank c = false := by
  have hrange : 48 ≤ c.toNat ∧ c.toNat ≤ 57 := by
    simpa [Char.isDigit, UInt32.le_iff_toNat_le] using h
  simp [isBlank]
  omega

end WorkerMemory.Text
