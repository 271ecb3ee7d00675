/-!
Writing keys and strings as a document has them.
-/
namespace DevServer.Toml

set_option autoImplicit false

/-- A character that may stand in a key without quotes. -/
def isBareKeyChar (c : Char) : Bool := c.isAlphanum || c = '-' || c = '_'

/-- A character that only an escape can write. -/
def isControl (c : Char) : Bool := c ≠ '\t' && (c.toNat ≤ 0x1F || c.toNat = 0x7F)

/-- Four hexadecimal digits. -/
def hex4 (n : Nat) : List Char :=
  [n / 4096, n / 256 % 16, n / 16 % 16, n % 16].map fun d => (Nat.digitChar d).toUpper

/-- The form of a character in a basic string. -/
def escapeChar (c : Char) : List Char :=
  if c = '"' then ['\\', '"']
  else if c = '\\' then ['\\', '\\']
  else if c = '\x08' then ['\\', 'b']
  else if c = '\t' then ['\\', 't']
  else if c = '\n' then ['\\', 'n']
  else if c = '\x0c' then ['\\', 'f']
  else if c = '\r' then ['\\', 'r']
  else if isControl c then '\\' :: 'u' :: hex4 c.toNat
  else [c]

def writeBasic (s : List Char) : List Char := '"' :: s.flatMap escapeChar ++ ['"']

/-- A key as a document would write it: without quotes if it can be, then between double quotes
if nothing needs an escape, then between single quotes, and with escapes at last. -/
def writeKey (name : String) : String :=
  let s := name.toList
  if s ≠ [] && s.all isBareKeyChar then name
  else if s.any (fun c => isControl c || c = '"' || c = '\\') then
    if s.any (fun c => isControl c || c = '\'') then String.ofList (writeBasic s)
    else "'" ++ name ++ "'"
  else String.ofList (writeBasic s)

end DevServer.Toml
