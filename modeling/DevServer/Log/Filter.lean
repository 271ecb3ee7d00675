import DevServer.Log.Event
import DevServer.Number.Decimal

/-!
Which events are written. A directive gives the least urgent level for the targets that begin with
its target, and may ask for fields or a span by name; the most specific directive for an event
decides, and none means that the event is left out. A directive that names a span is about what
happens inside it and enables no event here.
-/
namespace DevServer.Log

set_option autoImplicit false

/-- A rule about events. -/
structure Directive where
  /-- Nothing for all targets. -/
  target : Option String := none
  span : Option String := none
  /-- Names of fields, each perhaps with a value that it must have. -/
  fields : List String := []
  /-- The rank of the least urgent level; zero enables nothing. -/
  rank : Nat := Level.trace.rank
deriving Repr, DecidableEq

namespace Directive

/-- The levels by their words in lower case. -/
def rankWords : List (String × Nat) :=
  ("off", 0) :: Level.words.map fun w => (w.1, w.2.rank)

/-- A level by its number or its word, in any case of ASCII. -/
def rank? (s : List Char) : Option Nat :=
  match Number.Decimal.readNat Number.Decimal.maxUInt64 s with
  | .ok n => if n ≤ Level.trace.rank then some n else none
  | .error _ => rankWords.lookup (String.ofList (Text.Blank.foldCase s))

/-- The least urgent level that a text gives; no text stands for all levels. -/
def rankOrAll? (s : List Char) : Option Nat :=
  if s = [] then some Level.trace.rank else rank? s

/-- What is being read of a directive; the numbers tell where it began. -/
inductive ReadState where
  | start
  | target (start : Nat)
  | span (start : Nat)
  | field (start : Nat)
  | fieldsDone
  | spanDone
  | level (start : Nat)
deriving Repr, DecidableEq

def slice (s : List Char) (start stop : Nat) : List Char := (s.drop start).take (stop - start)

/-- A character that a target may begin with; those beyond ASCII all count as letters. -/
def isTargetStart (c : Char) : Bool := c = '-' || c = ':' || c = '_' || c.isAlphanum || 0x80 ≤ c.toNat

/-- Reads the character at a position of a text. -/
def step? (text : List Char) (d : Directive) (state : ReadState) (i : Nat) (c : Char) :
    Option (Directive × ReadState) :=
  let upTo (start : Nat) : String := String.ofList (slice text start i)
  match state with
  | .start =>
    if c = '[' then some (d, .span (i + 1))
    else if isTargetStart c then some (d, .target i)
    else none
  | .target start =>
    if c = '=' then some ({ d with target := some (upTo start) }, .level (i + 1))
    else if c = '[' then some ({ d with target := some (upTo start) }, .span (i + 1))
    else some (d, state)
  | .span start =>
    if c = ']' then some ({ d with span := some (upTo start) }, .spanDone)
    else if c = '\x7b' then
      some ({ d with span := if upTo start = "" then none else some (upTo start) }, .field (i + 1))
    else some (d, state)
  | .field start =>
    if c = '\x7d' then
      if upTo start = "" then none
      else some ({ d with fields := d.fields ++ [upTo start] }, .fieldsDone)
    else some (d, state)
  | .fieldsDone => if c = ']' then some (d, .spanDone) else none
  | .spanDone => if c = '=' then some (d, .level (i + 1)) else none
  | .level _ => some (d, state)

/-- Reads characters from a position on. -/
def steps? (text : List Char) : Directive → ReadState → Nat → List Char → Option (Directive × ReadState)
  | d, state, _, [] => some (d, state)
  | d, state, i, c :: rest =>
    match step? text d state i c with
    | none => none
    | some (d, state) => steps? text d state (i + 1) rest

/-- The directive that a text gives. -/
def ofText? (text : List Char) : Option Directive :=
  -- Blanks around the text are not read, but what has been read is cut from the text with them.
  match steps? text {} .start 0 (Text.Blank.trim text) with
  | none => none
  | some (d, .target start) =>
    let s := text.drop start
    match rankOrAll? s with
    | some rank => some { d with rank }
    | none => some { d with target := some (String.ofList s) }
  | some (d, .level start) => (rankOrAll? (text.drop start)).map fun rank => { d with rank }
  | some (d, .spanDone) => some d
  | some _ => none

/-- Whether the directive can enable events: it names no span and wants no value of a field. -/
def isStatic (d : Directive) : Bool := d.span.isNone && d.fields.all fun f => !f.toList.contains '='

/-- Whether the directive is about an event. -/
def concerns (d : Directive) (e : Event) : Bool :=
  d.target.all (fun t => t.toList.isPrefixOf e.target.toList) &&
    d.fields.all fun f => f = "message" || e.fields.any fun g => g.1 = f

/-- How specific the directive is: the length of its target and the number of its fields. -/
def weight (d : Directive) : Nat × Nat :=
  (d.target.elim 0 fun t => t.utf8ByteSize + 1, d.fields.length)

/-- Whether one directive is at least as specific as another one. -/
def atLeast (d e : Directive) : Bool :=
  e.weight.1 < d.weight.1 || (d.weight.1 = e.weight.1 && e.weight.2 ≤ d.weight.2)

end Directive

/-- The directives of a text, which commas separate; nothing if one of them is none. -/
def directives? (s : String) : Option (List Directive) :=
  ((List.splitOnP (· = ',') s.toList).filter (· ≠ [])).mapM Directive.ofText?

/-- Directives that decide about events. -/
structure Filter where
  directives : List Directive
deriving Repr, DecidableEq

namespace Filter

def onlyErrors : Filter := ⟨[{ rank := Level.error.rank }]⟩

/-- The filter of some directives; none at all stand for errors only. -/
def ofDirectives (ds : List Directive) : Filter := if ds = [] then onlyErrors else ⟨ds⟩

/-- The most specific of the directives for an event; of equal ones the last. -/
def decisive? (f : Filter) (e : Event) : Option Directive :=
  (f.directives.filter fun d => d.isStatic && d.concerns e).foldl
    (fun best d => match best with
      | none => some d
      | some b => if d.atLeast b then some d else some b) none

/-- Whether an event is written. -/
def enables (f : Filter) (e : Event) : Bool :=
  (f.decisive? e).any fun d => e.level.rank ≤ d.rank

end Filter

/-- The directives for a level: it holds for the server and for its transport. -/
def defaultDirectives (level : String) : String :=
  let level := String.ofList (Text.Blank.foldCase level.toList)
  s!"reporting_webserver={level},tower_http={level}"

/-- The filter for a level, unless a text with other directives is given and can be read. -/
def filterFor (level : String) (given : Option String) : Filter :=
  match given.bind directives? with
  | some ds => .ofDirectives ds
  | none => .ofDirectives ((directives? (defaultDirectives level)).getD [])

end DevServer.Log
