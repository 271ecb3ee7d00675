import DevServer.Number.Decimal

/-!
Why a text is not a document. A failure names the part of the grammar that stopped, what could
have stood there and the cause, each if there is one, and says where reading stopped: positions
are counted from the end, as the number of characters that are left.
-/
namespace DevServer.Toml

set_option autoImplicit false

/-- A part of the grammar that is named when it cannot be read. -/
inductive Part where
  | tableHeader
  | key
  | string
  | basicString
  | literalString
  | multilineBasicString
  | multilineLiteralString
  | escapeSequence
  | shortCodePoint
  | longCodePoint
  | integer
  | hexadecimalInteger
  | octalInteger
  | binaryInteger
  | floatingPoint
  | dateTime
  | time
  | timeOffset
  | array
  | inlineTable
deriving Repr, DecidableEq

def Part.name : Part → String
  | .tableHeader => "table header"
  | .key => "key"
  | .string => "string"
  | .basicString => "basic string"
  | .literalString => "literal string"
  | .multilineBasicString => "multiline basic string"
  | .multilineLiteralString => "multiline literal string"
  | .escapeSequence => "escape sequence"
  | .shortCodePoint => "unicode 4-digit hex code"
  | .longCodePoint => "unicode 8-digit hex code"
  | .integer => "integer"
  | .hexadecimalInteger => "hexadecimal integer"
  | .octalInteger => "octal integer"
  | .binaryInteger => "binary integer"
  | .floatingPoint => "floating-point number"
  | .dateTime => "date-time"
  | .time => "time"
  | .timeOffset => "time offset"
  | .array => "array"
  | .inlineTable => "inline table"

/-- What could have stood where reading stopped. -/
inductive Expected where
  /-- These characters. -/
  | text (s : String)
  /-- Something that has a name. -/
  | named (s : String)
deriving Repr, DecidableEq

def Expected.message : Expected → String
  | .text s => "`" ++ s ++ "`"
  | .named s => s

/-- Why something that was read cannot stand. -/
inductive Cause where
  | outOfRange
  | number (fault : Number.Decimal.Fault)
  | tooDeep
  /-- A key is there already; `place` is the path of its table, if that is told. -/
  | duplicateKey (key : String) (place : Option (List String))
  /-- A path goes on below a value of the given kind. -/
  | notATable (path : List String) (kind : String)
deriving Repr, DecidableEq

def Cause.message : Cause → String
  | .outOfRange => "value is out of range"
  | .number fault => fault.message
  | .tooDeep => "recursion limit exceeded"
  | .duplicateKey key none => s!"duplicate key `{key}`"
  | .duplicateKey key (some []) => s!"duplicate key `{key}` in document root"
  | .duplicateKey key (some path) =>
    "duplicate key `" ++ key ++ "` in table `" ++ ".".intercalate path ++ "`"
  | .notATable path kind =>
    "dotted key `" ++ ".".intercalate path ++ "` attempted to extend non-table type (" ++ kind ++ ")"

/-- A failure. One that is `final` is not undone by trying something else. -/
structure Failure where
  left : Nat
  part : Option Part := none
  expected : List Expected := []
  cause : Option Cause := none
  final : Bool := false
deriving Repr, DecidableEq

/-- One line for each thing that is known. -/
def Failure.message (f : Failure) : String :=
  let part := f.part.map fun p => "invalid " ++ p.name
  let expected :=
    if f.expected.isEmpty then none
    else some ("expected " ++ ", ".intercalate (f.expected.map Expected.message))
  "\n".intercalate (part.toList ++ expected.toList ++ (f.cause.map Cause.message).toList)

end DevServer.Toml
