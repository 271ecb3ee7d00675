import DevServer.Number.Binary64
import DevServer.Toml.Scan

/-!
Documents as data. A table is a list of entries in the order in which they came, each key once; a
node is a scalar, an array or a table, with the piece of text that it was written as.
-/
namespace DevServer.Toml

set_option autoImplicit false

/-- A name with the piece of text that it was written as. -/
structure Key where
  name : String
  span : Span
deriving Repr, DecidableEq

/-- A value that holds no other. Of a date or time only its being one is kept. -/
inductive Scalar where
  | text (s : String)
  | integer (n : Int)
  | decimal (x : Number.Binary64)
  | truth (b : Bool)
  | instant
deriving Repr, DecidableEq

/-- How a table came about. -/
structure Origin where
  /-- It was not written itself, only a path through it. -/
  implied : Bool := false
  /-- That path is a key, and not the header of another table. -/
  dotted : Bool := false
deriving Repr, DecidableEq

/-- A table whose entries hold values of the given type. -/
structure TableOf (α : Type) where
  origin : Origin := {}
  entries : List (Key × α) := []
  span : Option Span := none

/-- A value of a document. -/
inductive Node where
  | scalar (value : Scalar) (span : Span)
  | array (items : List Node) (span : Span)
  /-- A table between braces. -/
  | inlineTable (table : TableOf Node)
  /-- A table below a header, or one that keys or headers imply. -/
  | table (table : TableOf Node)
  /-- The tables below headers between double brackets, of which there is at least one. -/
  | tables (items : List (TableOf Node))

abbrev Table := TableOf Node

namespace TableOf

variable {α : Type}

def find? (t : TableOf α) (name : String) : Option α :=
  (t.entries.find? fun e => e.1.name = name).map Prod.snd

/-- A further entry, the last one. -/
def push (t : TableOf α) (key : Key) (a : α) : TableOf α :=
  { t with entries := t.entries ++ [(key, a)] }

/-- Another value for a name, in its place. -/
def replace (t : TableOf α) (name : String) (a : α) : TableOf α :=
  { t with entries := t.entries.map fun e => if e.1.name = name then (e.1, a) else e }

def erase (t : TableOf α) (name : String) : TableOf α :=
  { t with entries := t.entries.filter fun e => e.1.name ≠ name }

/-- A table that only the path to another one tells of. -/
def implied (dotted : Bool) : TableOf α := { origin := ⟨true, dotted⟩ }

end TableOf

def Scalar.kind : Scalar → String
  | .text _ => "string"
  | .integer _ => "integer"
  | .decimal _ => "float"
  | .truth _ => "boolean"
  | .instant => "datetime"

/-- The kind of a value as a diagnostic names it. -/
def Node.kind : Node → String
  | .scalar v _ => v.kind
  | .array _ _ => "array"
  | .inlineTable _ => "inline table"
  | .table _ => "table"
  | .tables _ => "array of tables"

/-- The piece of text from the first of some tables to the last. -/
def spanOfTables (items : List Table) : Option Span := do
  let first ← (← items.head?).span
  let last ← (← items.getLast?).span
  return ⟨first.start, last.stop⟩

/-- The piece of text of a value. Tables that were not written themselves have none. -/
def Node.span? : Node → Option Span
  | .scalar _ span => some span
  | .array _ span => some span
  | .inlineTable t => t.span
  | .table t => t.span
  | .tables items => spanOfTables items

end DevServer.Toml
