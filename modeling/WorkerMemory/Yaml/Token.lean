/-! # YAML: tokens -/

namespace WorkerMemory.Yaml

/-! ## Kinds of characters

The NUL stands for the end of the text. -/

def isEnd (c : Char) : Bool := c == '\x00'

def isBreak (c : Char) : Bool := c == '\n' || c == '\r'

def isBreakOrEnd (c : Char) : Bool := isBreak c || isEnd c

def isBlank (c : Char) : Bool := c == ' ' || c == '\t'

def isSpace (c : Char) : Bool := c == ' '

/-- What ends a word outside of quotes. -/
def isGap (c : Char) : Bool := isBlank c || isBreakOrEnd c

/-- The indicators of flow collections. -/
def isFlow (c : Char) : Bool := c == ',' || c == '[' || c == ']' || c == '\x7b' || c == '\x7d'

def isWord (c : Char) : Bool := c.isAlphanum || c == '_' || c == '-'

def isAnchor (c : Char) : Bool := !isGap c && !isFlow c && c != '\ufeff'

def isUri (c : Char) : Bool :=
  c.isAlphanum || c == '-' || "#;/?:@&=+$,_.!~*'()[]%".toList.contains c

def isTag (c : Char) : Bool := isUri c && !isFlow c && c != '!'

/-! ## Tokens -/

inductive Token where
  | versionDirective
  | tagDirective (handle meant : String)
  | documentStart
  | documentEnd
  | blockListStart
  | blockMapStart
  | blockEnd
  | flowListStart
  | flowListEnd
  | flowMapStart
  | flowMapEnd
  | blockEntry
  | flowEntry
  | key
  | value
  | alias (name : String)
  | anchor (name : String)
  | tag (handle suffix : String)
  | scalar (isPlain : Bool) (text : String)
  deriving DecidableEq, Repr

/-- Anchors and tags stand in front of the node they belong to. -/
def Token.isProperty : Token → Bool
  | anchor _ | tag .. => true
  | _ => false

end WorkerMemory.Yaml
