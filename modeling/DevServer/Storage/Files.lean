/-!
The files that a program can read from its working folder. Names and contents are bytes. Folders
exist because something is in them or because they are listed themselves; above the working folder
nothing is known but that it is a folder.
-/
namespace DevServer.Storage

set_option autoImplicit false

/-- A name or a path as it was given. -/
abbrev Bytes := List UInt8

/-- Why a file cannot be read as text. -/
inductive Fault where
  | notFound
  | isFolder
  | notFolder
  | nameTooLong
  | notText
  | nulInName
deriving Repr, DecidableEq

/-- What reading the file at a path gives. -/
abbrev Reader := Bytes → Except Fault Bytes

/-- What is stored under a path. -/
inductive Entry where
  | file (content : Bytes)
  | folder
deriving Repr, DecidableEq

/-- Entries by the names that lead to them from the working folder. -/
structure Files where
  entries : List (List Bytes × Entry) := []
deriving Repr, DecidableEq

def slash : UInt8 := 0x2F

/-- The parts of a path. -/
def parts (path : Bytes) : List Bytes := List.splitOnP (· = slash) path

/-- Names have at most this many bytes. -/
def maxName : Nat := 255

/-- Paths have fewer bytes than this. -/
def maxPath : Nat := 4096

namespace Files

/-- No files, and a folder for each of the names. -/
def ofList (entries : List (Bytes × Option Bytes)) : Files :=
  ⟨entries.map fun e => (parts e.1, match e.2 with
    | some content => .file content
    | none => .folder)⟩

/-- What is stored under the names that lead to it. -/
def lookup (files : Files) (names : List Bytes) : Option Entry :=
  match files.entries.lookup names with
  | some e => some e
  | none =>
    if names = [] || files.entries.any fun e => names.isPrefixOf e.1 then some .folder else none

/-- Where a walk along a path has come to. -/
inductive Place where
  /-- The names that lead here from the working folder. -/
  | inside (names : List Bytes)
  /-- A folder above the working folder. -/
  | above
deriving Repr, DecidableEq

/-- Follows the parts of a path; `.` and nothing stay in a folder, `..` leaves it. -/
def walk (files : Files) : Place → List Bytes → Except Fault Entry
  | .above, [] => .ok .folder
  | .inside names, [] => (files.lookup names).elim (.error .notFound) .ok
  | place, part :: rest =>
    let stays := part = [] || part = [0x2E]
    match place with
    | .above =>
      if stays || part = [0x2E, 0x2E] then walk files .above rest
      else if maxName < part.length then .error .nameTooLong
      else .error .notFound
    | .inside names =>
      match files.lookup names with
      | none => .error .notFound
      | some (.file _) => .error .notFolder
      | some .folder =>
        if stays then walk files (.inside names) rest
        else if part = [0x2E, 0x2E] then
          walk files (if names = [] then .above else .inside names.dropLast) rest
        else if maxName < part.length then .error .nameTooLong
        else walk files (.inside (names ++ [part])) rest

def read (files : Files) : Reader := fun path =>
  if path.contains 0 then .error .nulInName
  else if path = [] then .error .notFound
  else if maxPath ≤ path.length then .error .nameTooLong
  else
    let start := if path.head? = some slash then .above else .inside []
    match files.walk start (parts path) with
    | .ok (.file content) => .ok content
    | .ok .folder => .error .isFolder
    | .error fault => .error fault

end Files
end DevServer.Storage
