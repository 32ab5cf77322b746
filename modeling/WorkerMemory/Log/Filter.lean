import WorkerMemory.Decimal.Float
import WorkerMemory.Decimal.Shortest
import WorkerMemory.Log.Event
import WorkerMemory.Text.Alphanumeric
import WorkerMemory.Text.Blank

/-! # Filters on log events

A filter is a list of directives with commas between them. A directive is a level (`info`), or says
what it is about and perhaps the level (`target[span\x7bfield=value\x7d]=debug`). -/

namespace WorkerMemory.Log

open Text

/-! ## Limits -/

/-- The most talkative level that passes. Without one nothing does. -/
abbrev Limit := Option Level

namespace Limit

def all : List Limit := [none, some .error, some .warn, some .info, some .debug, some .trace]

def rank (limit : Limit) : Nat := limit.elim 0 Level.rank

def name : Limit → String
  | none => "off"
  | some .error => "error"
  | some .warn => "warn"
  | some .info => "info"
  | some .debug => "debug"
  | some .trace => "trace"

/-- A limit is given by its rank or its name, in letters of either case. -/
def parse? (cs : List Char) : Option Limit :=
  match Numeral.unsigned? cs with
  | some n => all[n]?
  | none => all.find? fun limit => limit.name.toList == asciiLower cs

end Limit

/-! ## What a directive is about -/

inductive FieldValue where
  | truth (value : Bool)
  | real (value : Float)
  | notANumber
  | natural (value : UInt64)
  | integer (value : Int64)
  | pattern (text : String)

namespace FieldValue

def parse (cs : List Char) : FieldValue :=
  if cs = "true".toList then truth true
  else if cs = "false".toList then truth false
  else match Numeral.uint64? cs, Numeral.int64? cs, Decimal.float? cs with
    | some n, _, _ => natural n
    | none, some n, _ => integer n
    | none, none, some x => if x.isNaN then notANumber else real x
    | none, none, none => pattern (String.ofList cs)

def toText : FieldValue → String
  | truth b => toString b
  | real x => Decimal.ofFloat x
  | notANumber => "NaN"
  | natural n => toString n.toNat
  | integer n => toString n.toInt
  | pattern text => text

def kind : FieldValue → Nat
  | truth _ => 0
  | real _ => 1
  | notANumber => 2
  | natural _ => 3
  | integer _ => 4
  | pattern _ => 5

instance : Ord FieldValue where
  compare
    | truth a, truth b => compare a b
    | real x, real y => if x < y then .lt else if y < x then .gt else .eq
    | natural m, natural n => compare m.toNat n.toNat
    | integer m, integer n => compare m.toInt n.toInt
    | pattern s, pattern t => compare s t
    | v, w => compare v.kind w.kind

end FieldValue

/-- A field that has to be there, perhaps with a certain value. -/
structure FieldMatch where
  name : String
  value : Option FieldValue

namespace FieldMatch

/-- What follows a second equals sign does not count. -/
def parse (cs : List Char) : FieldMatch :=
  let (name, rest) := cutAt '=' cs
  { name := String.ofList name, value := rest.map fun cs => .parse (cutAt '=' cs).1 }

def toText (m : FieldMatch) : String := m.name ++ m.value.elim "" ("=" ++ ·.toText)

instance : Ord FieldMatch where
  compare a b := (compare a.value.isSome b.value.isSome).then
    ((compare a.name b.name).then (compare a.value b.value))

end FieldMatch

structure Directive where
  target : Option String := none
  span : Option String := none
  field : Option FieldMatch := none
  limit : Limit := some .trace

namespace Directive

def scopeText (span field : Option String) : String :=
  if span.isNone && field.isNone then ""
  else "[" ++ span.getD "" ++ field.elim "" ("\x7b" ++ · ++ "\x7d") ++ "]"

def toText (d : Directive) : String :=
  let scope := d.target.getD "" ++ scopeText d.span (d.field.map FieldMatch.toText)
  if d.target.isNone && scope.isEmpty then d.limit.name else scope ++ "=" ++ d.limit.name

/-! ## Reading a directive -/

inductive Fault where
  | unknownLevel
  | malformed
  deriving DecidableEq, Repr

def Fault.message : Fault → String
  | unknownLevel => "error parsing level filter: expected one of \"off\", \"error\", \"warn\", " ++
    "\"info\", \"debug\", \"trace\", or a number 0-5"
  | malformed => "invalid filter directive"

/-- The message, and after it the message of what lies behind it. -/
def Fault.chain (fault : Fault) : String :=
  match fault with
  | unknownLevel => fault.message ++ ": " ++ fault.message
  | malformed => fault.message

/-- The part of a directive that is being read, its last character first. -/
inductive Reading where
  | start
  | word (part : List Char)
  | span (part : List Char)
  | field (part : List Char)
  | afterField
  | afterSpan
  | level (part : List Char)

def isWordStart (c : Char) : Bool := c == '-' || c == ':' || c == '_' || isAlphanumeric c

def text (part : List Char) : String := String.ofList part.reverse

/-- The character `c` decides how to go on, and `kept` goes into the part. -/
def step : Directive × Reading → Char × Char → Except Fault (Directive × Reading)
  | (d, .start), (c, kept) =>
    if c = '[' then .ok (d, .span [])
    else if isWordStart c then .ok (d, .word [kept])
    else .error .malformed
  | (d, .word part), (c, kept) =>
    if c = '=' then .ok ({ d with target := some (text part) }, .level [])
    else if c = '[' then .ok ({ d with target := some (text part) }, .span [])
    else .ok (d, .word (kept :: part))
  | (d, .span part), (c, kept) =>
    if c = ']' then .ok ({ d with span := some (text part) }, .afterSpan)
    else if c = '\x7b' then
      .ok ({ d with span := if part.isEmpty then none else some (text part) }, .field [])
    else .ok (d, .span (kept :: part))
  | (d, .field part), (c, kept) =>
    if c = '\x7d' then
      if part.isEmpty then .error .malformed
      else .ok ({ d with field := some (.parse part.reverse) }, .afterField)
    else .ok (d, .field (kept :: part))
  | (d, .afterField), (c, _) => if c = ']' then .ok (d, .afterSpan) else .error .malformed
  | (d, .afterSpan), (c, _) => if c = '=' then .ok (d, .level []) else .error .malformed
  | (d, .level part), (_, kept) => .ok (d, .level (kept :: part))

/-- A word alone is a level if it can be; otherwise everything of that target passes. -/
def ofWord (d : Directive) (word : List Char) : Directive :=
  match Limit.parse? word with
  | some limit => { d with limit }
  | none => { d with target := some (String.ofList word) }

/-- An empty level lets everything pass. -/
def withLevel (d : Directive) (word : List Char) : Except Fault Directive :=
  if word.isEmpty then .ok d
  else match Limit.parse? word with
    | some limit => .ok { d with limit }
    | none => .error .unknownLevel

/-- Blanks around a directive do not count when it is taken apart, but the parts are cut out of the
text as it is, so that blanks in front shift them. -/
def parse (cs : List Char) : Except Fault Directive := do
  let bare := trim cs
  let (d, reading) ← (bare.zip cs).foldlM step (({} : Directive), Reading.start)
  let rest := cs.drop bare.length
  match reading with
  | .word part => return d.ofWord (part.reverse ++ rest)
  | .level part => d.withLevel (part.reverse ++ rest)
  | .afterSpan => return d
  | .start | .span _ | .field _ | .afterField => throw .malformed

/-! ## Which directive comes first -/

/-- A longer target, a span and a field make a directive more specific. -/
def compareSpecificity (a b : Directive) : Ordering :=
  (compare (a.target.map String.utf8ByteSize) (b.target.map String.utf8ByteSize)).then
    ((compare a.span.isSome b.span.isSome).then
      ((compare a.field.isSome b.field.isSome).then
        ((compare a.target b.target).then
          ((compare a.span b.span).then (compare a.field b.field)))))

/-- Puts a directive before the less specific ones, in the place of one that is about the same. -/
def insert (d : Directive) : List Directive → List Directive
  | [] => [d]
  | e :: rest => match compareSpecificity d e with
    | .gt => d :: e :: rest
    | .eq => d :: rest
    | .lt => e :: insert d rest

def sort (directives : List Directive) : List Directive :=
  directives.foldl (fun sorted d => insert d sorted) []

/-- Whether a directive can be decided by an event alone, without its spans and field values. -/
def isPlain (d : Directive) : Bool :=
  d.span.isNone && d.field.all (·.value.isNone)

/-- Whether a directive names spans or fields. -/
def isContextual (d : Directive) : Bool := d.span.isSome || d.field.isSome

/-- Every event with a text has a field `message`. -/
def covers (d : Directive) (e : Event) : Bool :=
  d.target.all (·.toList.isPrefixOf e.target.toList) &&
    d.field.all fun m => m.name == "message" || e.fields.any (·.1 == m.name)

end Directive

/-! ## Filters -/

/-- The most specific directives come first. A directive with the bare name of a field is in both
lists. -/
structure Filter where
  plain : List Directive
  contextual : List Directive

namespace Filter

def ofDirectives (directives : List Directive) : Filter :=
  let (contextual, others) := directives.partition Directive.isContextual
  { plain := Directive.sort (others ++ contextual.filter Directive.isPlain)
    contextual := Directive.sort contextual }

def parse (text : String) : Except Directive.Fault Filter := do
  let parts := (splitOn ',' text.toList).filter (!·.isEmpty)
  return ofDirectives (← parts.mapM Directive.parse)

def toText (f : Filter) : String :=
  String.intercalate "," ((f.plain ++ f.contextual).map Directive.toText)

/-- The most specific directive about an event decides. -/
def allows (f : Filter) (e : Event) : Bool :=
  match f.plain.find? (·.covers e) with
  | some d => e.level.rank ≤ d.limit.rank
  | none => false

def standard : Filter := ofDirectives [
  { limit := some .info },
  { target := some "worker_metrics", limit := some .debug }]

/-- A filter that is asked for counts before one from the environment. A malformed one from there is
passed over. -/
def choose (asked environment : Option String) : Except Directive.Fault Filter :=
  match asked with
  | some text => parse text
  | none => match environment.map parse with
    | some (.ok filter) => .ok filter
    | some (.error _) | none => .ok standard

end Filter

end WorkerMemory.Log
