import DevServer.Toml.Values

/-!
Putting a document together from its entries and headers. The table below the last header is open
and takes the entries; the next header, or the end, puts it in its place. A table is defined once:
by a header or by dotted keys, and never below a value that is no table.
-/
namespace DevServer.Toml

set_option autoImplicit false

/-- Changes the table at the end of a path and implies the tables that are missing on the way. -/
def alterTable (dotted : Bool) (change : Table → Except Cause Table) (before : List Key) :
    List Key → Table → Except Cause Table
  | [], t => change t
  | k :: rest, t =>
    let path := before ++ [k]
    match t.find? k.name with
    | none => do
      let child ← alterTable dotted change path rest (.implied dotted)
      return t.push k (.table child)
    | some (.table child) =>
      -- Dotted keys add nothing to a table that has a header of its own.
      if dotted && !child.origin.implied then .error (.duplicateKey k.name none)
      else do
        let child ← alterTable dotted change path rest child
        return t.replace k.name (.table child)
    | some (.tables items) => do
      -- Of the tables below headers between double brackets the last one is meant.
      let last ← alterTable dotted change path rest (items.getLast?.getD {})
      return t.replace k.name (.tables (items.dropLast ++ [last]))
    | some other => .error (.notATable (path.map Key.name) other.kind)

/-- A document of which some lines have been read. -/
structure Assembly where
  /-- The tables that are in their places. -/
  root : Table := {}
  /-- The table that takes entries. -/
  current : Table := {}
  /-- The place of that table; nothing for the document itself. -/
  path : List Key := []
  /-- Whether the place is one among several of that path. -/
  repeated : Bool := false

namespace Assembly

/-- The failure of a header whose last key is there already. -/
def headerTaken (path : List Key) (key : Key) : Cause :=
  .duplicateKey (writeKey key.name) (some (path.map Key.name))

/-- The table that a header takes entries for. Only an implied one may be there. -/
def reopen (before : List Key) (key : Key) (parent : Table) : Except Cause Table :=
  match parent.find? key.name with
  | none => .ok {}
  | some (.table t) =>
    if t.origin.implied && !t.origin.dotted then .ok t else .error (headerTaken before key)
  | some _ => .error (headerTaken before key)

/-- The tables that a header between double brackets adds to. -/
def others (before : List Key) (key : Key) (parent : Table) : Except Cause (List Table) :=
  match parent.find? key.name with
  | none => .ok []
  | some (.tables items) => .ok items
  | some _ => .error (headerTaken before key)

/-- Puts the open table in its place. -/
def close (a : Assembly) : Except Cause Table :=
  match a.path.getLast? with
  | none => .ok a.current
  | some key =>
    let before := a.path.dropLast
    let place (parent : Table) : Except Cause Table :=
      if a.repeated then do
        let items ← others before key parent
        if items.isEmpty then return parent.push key (.tables [a.current])
        else return parent.replace key.name (.tables (items ++ [a.current]))
      else do
        let _ ← reopen before key parent
        -- A table that was implied before moves behind the others.
        return (parent.erase key.name).push key (.table a.current)
    alterTable false place [] before a.root

/-- The table at the end of the path of a header; below a name that is missing it is empty. -/
def follow (before : List Key) : List Key → Table → Except Cause Table
  | [], t => .ok t
  | k :: rest, t =>
    let path := before ++ [k]
    match t.find? k.name with
    | none => .ok {}
    | some (.table child) => follow path rest child
    | some (.tables items) => follow path rest (items.getLast?.getD {})
    | some other => .error (.notATable (path.map Key.name) other.kind)

/-- Opens the table of a header that was written as the given piece of text. -/
def openTable (path : List Key) (repeated : Bool) (span : Span) (a : Assembly) :
    Except Cause Assembly := do
  let root ← a.close
  match path.getLast? with
  | none => return { root, path, repeated }
  | some key =>
    let parent ← follow [] path.dropLast root
    let found : Table ←
      if repeated then do
        let _ ← others path.dropLast key parent
        pure {}
      else reopen path.dropLast key parent
    return { root, path, repeated, current := { found with origin := {}, span := some span } }

/-- Adds an entry to the open table. -/
def add (e : Entry) (a : Assembly) : Except Cause Assembly := do
  let place := a.path.map Key.name
  let current ← alterTable true (e.insert (some place)) [] e.path a.current
  -- The piece of text of the table now reaches to the end of the entry.
  let span := match current.span, e.value.span? with
    | some whole, some value => some ⟨whole.start, value.stop⟩
    | _, _ => current.span
  return { a with current := { current with span } }

end Assembly
end DevServer.Toml
