import WorkerMemory.Text.Printable

/-! # Texts quoted in messages -/

namespace WorkerMemory.Text

def hexDigits (n : Nat) : List Char := Nat.toDigits 16 n

/-- A character that would not show, or would join the one before it, is written by its number. -/
def escape (c : Char) : List Char :=
  if c = '\x00' then ['\\', '0']
  else if c = '\t' then ['\\', 't']
  else if c = '\r' then ['\\', 'r']
  else if c = '\n' then ['\\', 'n']
  else if c = '\\' then ['\\', '\\']
  else if c = '"' then ['\\', '"']
  else if isCombining c || !isPrintable c then
    ['\\', 'u', '\x7b'] ++ hexDigits c.toNat ++ ['\x7d']
  else [c]

def quote (s : String) : String :=
  String.ofList ('"' :: s.toList.flatMap escape ++ ['"'])

end WorkerMemory.Text
