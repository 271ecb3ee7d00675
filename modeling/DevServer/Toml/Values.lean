import DevServer.Toml.Instant
import DevServer.Toml.Node
import DevServer.Toml.Writer

/-!
Keys and values. Values nest at most `maxDepth` deep and dotted keys have fewer than that many
parts. Of the entries of a table between braces, the first that contradicts an earlier one is
reported at the beginning of all of them.
-/
namespace DevServer.Toml

set_option autoImplicit false

/-- Nothing is nested this deep. -/
def maxDepth : Nat := 80

/-- Changes the table at the end of a dotted path between braces. `before` is the path so far. -/
def alterInline (change : Table → Except Cause Table) (before : List Key) :
    List Key → Table → Except Cause Table
  | [], t => change t
  | k :: rest, t =>
    match t.find? k.name with
    | none => do
      let child ← alterInline change (before ++ [k]) rest (.implied true)
      return t.push k (.inlineTable child)
    | some (.inlineTable child) =>
      if !child.origin.implied then .error (.duplicateKey k.name none)
      else do
        let child ← alterInline change (before ++ [k]) rest child
        return t.replace k.name (.inlineTable child)
    | some other => .error (.notATable ((before ++ [k]).map Key.name) other.kind)

/-- An entry as it is written: the path to its table, its key and its value. -/
structure Entry where
  path : List Key
  key : Key
  value : Node

/-- Adds an entry to a table that its path has led to. -/
def Entry.insert (e : Entry) (place : Option (List String)) (t : Table) : Except Cause Table :=
  if t.origin.dotted = e.path.isEmpty then .error (.duplicateKey e.key.name none)
  else if (t.find? e.key.name).isSome then .error (.duplicateKey e.key.name place)
  else .ok (t.push e.key e.value)

/-- The table of the entries between braces. -/
def Table.ofEntries (entries : List Entry) : Except Cause Table :=
  entries.foldlM (fun t e => alterInline (e.insert none) [] e.path t) {}

namespace Scan

/-- A key without quotes or as a string on one line. -/
def simpleKey : Scan Key := do
  let (name, span) ← spanned do
    match ← peek with
    | none => fail none
    | some '"' => basicString
    | some '\'' => literalString
    | some _ => takeWhile1 isBareKeyChar
  return ⟨String.ofList name, span⟩

/-- A path of keys. -/
def dottedKey : Scan (List Key) :=
  check (fun path => if maxDepth ≤ path.length then .error (some .tooDeep) else .ok path)
    (labelled .key (separated1 (do let _ ← char '.') do
      blanks
      let key ← simpleKey
      blanks
      return key))

def equalsSign : Scan Unit := do
  let _ ← expecting [.text ".", .text "="] (char '=')

/-- A key and a value, with what ends the entry. -/
def entry (value : Scan Node) (ending : Scan Unit) : Scan Entry := do
  let path ← dottedKey
  let value ← committed do
    equalsSign
    blanks
    let value ← value
    ending
    return value
  match path.getLast? with
  | some key => return ⟨path.dropLast, key, value⟩
  | none => fail none

/-- The values of an array, with layout around each. -/
def arrayItems (value : Scan Node) : Scan (List Node) := do
  if (← peek) = some ']' then return []
  let items ← separated (do let _ ← char ',') do
    layout
    let item ← value
    layout
    return item
  if !items.isEmpty then
    let _ ← optional (char ',')
  layout
  return items

/-- An array, given how its values are read. -/
def array (value : Scan Node) : Scan (List Node) := do
  let _ ← char '['
  let items ← committed (arrayItems value)
  let _ ← labelled .array (expecting [.text "]"] (committed (char ']')))
  return items

/-- The entries between braces, all on one line. -/
def inlineEntries (value : Scan Node) : Scan (List Entry) := do
  let entries ← separated (do let _ ← char ',') (entry value blanks)
  blanks
  return entries

/-- A table between braces, given how its values are read. -/
def inlineTable (value : Scan Node) : Scan Table := do
  let _ ← char '\x7b'
  let table ← committed (check (fun entries =>
    match Table.ofEntries entries with
    | .ok t => .ok t
    | .error cause => .error (some cause)) (inlineEntries value))
  let _ ← labelled .inlineTable (expecting [.text "\x7d"] (committed (char '\x7d')))
  return table

/-- A value that begins like no other. -/
def word {α : Type} (scan : Scan α) : Scan α :=
  labelled .string (expecting [.text "\"", .text "'"] scan)

/-- A value without others in it. -/
def scalar : Scan Scalar := do
  match ← peek with
  | none => fail none
  | some '"' | some '\'' => return .text (String.ofList (← string))
  | some '_' => return .integer (← expecting [.named "leading digit"] integer)
  | some '.' => return .decimal (← expecting [.named "leading digit"] floatingPoint)
  | some 't' => word (committed (do literal "true".toList; return .truth true))
  | some 'f' => word (committed (do literal "false".toList; return .truth false))
  | some 'i' => word (do literal "inf".toList; return .decimal (.infinite false))
  | some 'n' => word (do literal "nan".toList; return .decimal .nan)
  | some c =>
    if c = '+' || c = '-' || c.isDigit then
      orElse (do instant; return .instant)
        (orElse (Scalar.decimal <$> floatingPoint) (Scalar.integer <$> integer))
    else word (fail none)

/-- A value of any kind. What holds other values fails where `nested` has no reading for them. -/
def valueWith (nested : Option (Scan Node)) : Scan Node := do
  match ← peek, nested with
  | some '[', some value =>
    let (items, span) ← spanned (array value)
    return .array items span
  | some '\x7b', some value =>
    let (t, span) ← spanned (inlineTable value)
    return .inlineTable { t with span := some span }
  | some '[', none | some '\x7b', none => committed (fail (some .tooDeep))
  | _, _ =>
    let (v, span) ← spanned scalar
    return .scalar v span

/-- A value in which others nest less deep than the given number. -/
def valueWithin : Nat → Scan Node
  | 0 => valueWith none
  | depth + 1 => valueWith (some (valueWithin depth))

def value : Scan Node := valueWithin (maxDepth - 1)

end Scan
end DevServer.Toml
