import WorkerMemory.Text.Numeral
import WorkerMemory.Text.Quoted
import WorkerMemory.Text.Split

/-! # Writing JSON without blanks -/

namespace WorkerMemory.Json

open Text

def escaped (c : Char) : List Char :=
  if c = '"' then ['\\', '"']
  else if c = '\\' then ['\\', '\\']
  else if c = '\x08' then ['\\', 'b']
  else if c = '\x0c' then ['\\', 'f']
  else if c = '\n' then ['\\', 'n']
  else if c = '\r' then ['\\', 'r']
  else if c = '\t' then ['\\', 't']
  else if c.toNat < 0x20 then
    ['\\', 'u', '0', '0', (c.toNat / 16).digitChar, (c.toNat % 16).digitChar]
  else [c]

def ofChars (cs : List Char) : List Char := '"' :: cs.flatMap escaped ++ ['"']

def ofString (s : String) : List Char := ofChars s.toList

def ofBool : Bool → List Char
  | true => ['t', 'r', 'u', 'e']
  | false => ['f', 'a', 'l', 's', 'e']

def ofInt (n : Int) : List Char := Numeral.ofInt n

def ofNat (n : Nat) : List Char := Numeral.ofNat n

def null : List Char := ['n', 'u', 'l', 'l']

def ofOption {α : Type} (write : α → List Char) (a : Option α) : List Char := a.elim null write

/-- An object from its members, each a name with a value that is written already. -/
def ofMembers (members : List (String × List Char)) : List Char :=
  '\x7b' :: joinWith ',' (members.map fun (name, value) => ofString name ++ ':' :: value) ++
    ['\x7d']

end WorkerMemory.Json
