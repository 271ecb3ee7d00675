import DevServer.Text.Quoted
import DevServer.Toml.Node

/-!
Typed values from nodes. A record is read from a table by the names of its fields or from an array
by their order; what is missing keeps its default and what is not asked for is not looked at. The
first entry that does not fit is the one that is reported, with the names that lead to it.
-/
namespace DevServer.Toml

set_option autoImplicit false

/-- Why a node is not a value of the wanted type. -/
inductive Mismatch where
  | type (found wanted : String)
  | range (found : Int) (wanted : String)
  | variant (found : String) (known : List String)
  | noVariant
  | emptyTable
  | manyVariants
  | contentInTable
  | contentInTables
  | contentOfKind (kind : String)
deriving Repr, DecidableEq

def Mismatch.message : Mismatch → String
  | .type found wanted => s!"invalid type: {found}, expected {wanted}"
  | .range found wanted => s!"invalid value: integer `{found}`, expected {wanted}"
  | .variant found known =>
    "unknown variant `" ++ found ++ "`, expected " ++
      " or ".intercalate (known.map fun k => "`" ++ k ++ "`")
  | .noVariant => "wanted string or table"
  | .emptyTable => "wanted exactly 1 element, found 0 elements"
  | .manyVariants => "wanted exactly 1 element, more than 1 element"
  | .contentInTable => "expected empty table"
  | .contentInTables => "expected empty array"
  | .contentOfKind kind => s!"expected table, found {kind}"

/-- A mismatch, the names of the fields that lead to it and the piece of text it is about. -/
structure Misfit where
  mismatch : Mismatch
  keys : List String := []
  span : Option Span
deriving Repr, DecidableEq

/-- A node as a diagnostic shows it. Dates and times are shown like tables. -/
def Node.found : Node → String
  | .scalar (.text s) _ => "string " ++ Text.Quoted.quote s
  | .scalar (.integer n) _ => s!"integer `{n}`"
  | .scalar (.decimal x) _ => s!"floating point `{x.render}`"
  | .scalar (.truth b) _ => s!"boolean `{b}`"
  | .scalar .instant _ => "map"
  | .array _ _ => "sequence"
  | .inlineTable _ => "map"
  | .table _ => "map"
  | .tables _ => "sequence"

/-- Reads a value from a node. -/
abbrev Decoder (α : Type) := Node → Except Misfit α

namespace Decoder

/-- The node is of another type than the wanted one. -/
def wrongType {α : Type} (wanted : String) : Decoder α := fun node =>
  .error { mismatch := .type node.found wanted, span := node.span? }

def text : Decoder String
  | .scalar (.text s) _ => .ok s
  | node => wrongType "a string" node

def truth : Decoder Bool
  | .scalar (.truth b) _ => .ok b
  | node => wrongType "a boolean" node

/-- An integer from 0 to `limit`, of a type that is called `wanted`. -/
def natural (limit : Nat) (wanted : String) : Decoder Nat
  | .scalar (.integer n) span =>
    if 0 ≤ n && n ≤ limit then .ok n.toNat
    else .error { mismatch := .range n wanted, span }
  | node => wrongType wanted node

/-- Reports a misfit of the value of a key. -/
def atKey {α : Type} (key : Key) (node : Node) : Except Misfit α → Except Misfit α
  | .ok a => .ok a
  | .error m =>
    .error { m with
      keys := key.name :: m.keys, span := m.span.or (node.span?.or (some key.span)) }

/-- A field of a record: its name and what a node makes of the record. -/
structure FieldReader (σ : Type) where
  name : String
  set : Node → σ → Except Misfit σ

variable {σ : Type}

/-- The record that the entries of a table make of another one. -/
def fromEntries (fields : List (FieldReader σ)) : List (Key × Node) → σ → Except Misfit σ
  | [], s => .ok s
  | (key, node) :: rest, s =>
    match fields.find? (·.name = key.name) with
    | none => fromEntries fields rest s
    | some field => do
      let s ← atKey key node (field.set node s)
      fromEntries fields rest s

/-- The record that the items of an array make of another one. -/
def fromItems : List (FieldReader σ) → List Node → σ → Except Misfit σ
  | field :: fields, node :: rest, s => do
    let s ← field.set node s
    fromItems fields rest s
  | _, _, s => .ok s

/-- The items of the tables below headers between double brackets. -/
def ofTables (items : List Table) : List Node := items.map .table

/-- Reads a record called `wanted` whose missing fields are those of `default`. -/
def record (wanted : String) (fields : List (FieldReader σ)) (default : σ) : Decoder σ
  | .inlineTable t => fromEntries fields t.entries default
  | .table t => fromEntries fields t.entries default
  | .array items _ => fromItems fields items default
  | .tables items => fromItems fields (ofTables items) default
  | .scalar .instant _ => .ok default
  | node => wrongType wanted node

/-- The value that goes with the name of a variant may only be empty. -/
def emptyContent : Decoder Unit
  | .tables items => if items.isEmpty then .ok () else
    .error { mismatch := .contentInTables, span := (Node.tables items).span? }
  | .array items span => if items.isEmpty then .ok () else
    .error { mismatch := .contentInTable, span }
  | .table t => if t.entries.isEmpty then .ok () else
    .error { mismatch := .contentInTable, span := t.span }
  | .inlineTable t => if t.entries.isEmpty then .ok () else
    .error { mismatch := .contentInTable, span := t.span }
  | node => .error { mismatch := .contentOfKind node.kind, span := node.span? }

/-- One of several variants by its name. -/
def variantName {α : Type} (variants : List (String × α)) (name : String) (span : Option Span) :
    Except Misfit α :=
  match variants.lookup name with
  | some a => .ok a
  | none => .error { mismatch := .variant name (variants.map Prod.fst), span }

/-- One of several variants: its name, or a table with its name as the only key. -/
def variant {α : Type} (variants : List (String × α)) : Decoder α
  | .scalar (.text s) span => variantName variants s span
  | .table t => ofTable t
  | .inlineTable t => ofTable t
  | node => .error { mismatch := .noVariant, span := node.span? }
where
  ofTable (t : Table) : Except Misfit α :=
    match t.entries with
    | [] => .error { mismatch := .emptyTable, span := t.span }
    | [(key, content)] => do
      let a ← variantName variants key.name key.span
      match emptyContent content with
      | .ok () => .ok a
      | .error m => .error { m with span := m.span.or t.span }
    | _ => .error { mismatch := .manyVariants, span := t.span }

end Decoder
end DevServer.Toml
