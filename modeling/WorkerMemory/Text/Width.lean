import WorkerMemory.Text.Width.Table

/-! # Columns taken by a text on a terminal -/

namespace WorkerMemory.Text

/-- The columns of a character that stands alone. -/
def charWidth (c : Char) : Nat :=
  if c.toNat ≤ 0xA0 then 1
  else if c = '\u17d8' then 3
  else if isIn doubleWidth c then 2
  else if isIn zeroWidth c then 0
  else 1

def joiner : Char := '\u200d'

def pictureSelector : Char := '\ufe0f'

def textSelector : Char := '\ufe0e'

def isIdeographicPicture (c : Char) : Bool := 0x1F200 ≤ c.toNat && c.toNat ≤ 0x1F2FF

/-! ## Letters that flow together -/

def isLam (c : Char) : Bool :=
  isIn #[(0x644, 0x644), (0x6B5, 0x6B8), (0x76A, 0x76A), (0x8A6, 0x8A6), (0x8C7, 0x8C7)] c

def isAlef (c : Char) : Bool :=
  isIn #[(0x622, 0x623), (0x625, 0x625), (0x627, 0x627), (0x671, 0x673), (0x675, 0x675),
    (0x773, 0x774)] c

/-- Arabic marks that do not keep two letters apart. -/
def isTransparent (c : Char) : Bool :=
  0xA0 < c.toNat && isIn zeroWidth c && c != joiner && c != '\u200c'

def isTifinagh (c : Char) : Bool := isIn #[(0x2D31, 0x2D65), (0x2D6F, 0x2D6F)] c

/-- Khmer letters that are written small below the sign before them. -/
def isSubscriptKhmer (c : Char) : Bool :=
  isIn #[(0x1780, 0x1782), (0x1784, 0x1787), (0x1789, 0x178C), (0x178E, 0x1793),
    (0x1795, 0x1798), (0x179B, 0x179D), (0x17A0, 0x17A0), (0x17A2, 0x17A2), (0x17A7, 0x17A7),
    (0x17AB, 0x17AC), (0x17AF, 0x17AF)] c

/-- Letters at the front that take fewer columns together than alone: their columns, and the text
after them. -/
def ligature? : List Char → Option (Nat × List Char)
  | '\u05d0' :: '\u200d' :: '\u05dc' :: cs => some (1, cs)
  | '\u1a15' :: '\u1a17' :: '\u200d' :: '\u1a10' :: cs => some (1, cs)
  | '\u17d2' :: c :: cs => if isSubscriptKhmer c then some (0, cs) else none
  | c :: cs =>
    if isLam c then
      match cs.dropWhile isTransparent with
      | d :: rest => if isAlef d then some (1, rest) else none
      | [] => none
    else if isTifinagh c then
      match cs with
      | j :: d :: rest =>
        if (j == '\u2d7f' || j == joiner) && isTifinagh d then some (1, rest) else none
      | _ => none
    else if c.toNat == 0x10C32 then
      match cs with
      | '\u200d' :: d :: rest => if d.toNat == 0x10C03 then some (1, rest) else none
      | _ => none
    else if isIn #[(0xA4F8, 0xA4FB)] c then
      match cs with
      | d :: rest => if isIn #[(0xA4FC, 0xA4FD)] d then some (1, rest) else none
      | [] => none
    else none
  | [] => none

/-! ## Pictures -/

/-- One picture at the front, with the selector or skin tone that belongs to it. -/
def picture? : List Char → Option (List Char)
  | c :: d :: cs =>
    if isIn tonedPictures c && isIn #[(0x1F3FB, 0x1F3FF)] d then some cs
    else if isIn selectablePictures c && d == pictureSelector then some cs
    else if isIn pictures c && d != textSelector then some (d :: cs)
    else none
  | [c] => if isIn pictures c then some [] else none
  | [] => none

/-- Pictures joined to one. -/
def joinedPictures : (room : Nat) → List Char → List Char
  | room + 1, '\u200d' :: cs =>
    match picture? cs with
    | some rest => joinedPictures room rest
    | none => joiner :: cs
  | _, cs => cs

/-! ## Whole texts -/

/-- `room` is at least the number of characters. -/
def widthWithin : (room : Nat) → List Char → Nat
  | 0, _ | _, [] => 0
  | room + 1, c :: cs =>
    match ligature? (c :: cs) with
    | some (columns, rest) => columns + widthWithin room rest
    | none => match picture? (c :: cs) with
      | some rest => 2 + widthWithin room (joinedPictures cs.length rest)
      | none =>
        if cs.head? = some textSelector && isIn pictures c && !isIdeographicPicture c then
          1 + widthWithin room cs.tail
        else charWidth c + widthWithin room cs

def width (cs : List Char) : Nat := widthWithin cs.length cs

end WorkerMemory.Text
