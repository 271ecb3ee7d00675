/-!
Writing JSON: the string form and compact objects, with the keys in the order in which they are
given. Only what the server writes is here; nothing reads JSON.
-/
namespace DevServer.Text.Json

set_option autoImplicit false

/-- A value that the server writes. -/
inductive Value where
  | text (s : String)
  | natural (n : Nat)
  | truth (b : Bool)
  | list (xs : List String)
deriving Repr, DecidableEq

/-- Two hexadecimal digits of a byte. -/
def hexByte (n : Nat) : String :=
  String.ofList [Nat.digitChar (n / 16), Nat.digitChar (n % 16)]

/-- The form of one character inside a JSON string. -/
def escape (c : Char) : String :=
  if c = '"' then "\\\""
  else if c = '\\' then "\\\\"
  else if c = '\x08' then "\\b"
  else if c = '\x0c' then "\\f"
  else if c = '\n' then "\\n"
  else if c = '\r' then "\\r"
  else if c = '\t' then "\\t"
  else if c.toNat < 0x20 then "\\u00" ++ hexByte c.toNat
  else String.singleton c

def quote (s : String) : String := "\"" ++ String.join (s.toList.map escape) ++ "\""

def Value.render : Value → String
  | .text s => quote s
  | .natural n => toString n
  | .truth true => "true"
  | .truth false => "false"
  | .list xs => "[" ++ ",".intercalate (xs.map quote) ++ "]"

/-- An object without blanks, its members in the given order. -/
def object (members : List (String × String)) : String :=
  "\x7b" ++ ",".intercalate (members.map fun m => quote m.1 ++ ":" ++ m.2) ++ "\x7d"

end DevServer.Text.Json
