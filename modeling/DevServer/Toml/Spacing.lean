import DevServer.Toml.Scan

/-!
What stands between the parts of a document: blanks, line ends and comments.
-/
namespace DevServer.Toml

set_option autoImplicit false

/-- A blank within a line. -/
def isBlank (c : Char) : Bool := c = ' ' || c = '\t'

/-- A character beyond ASCII. -/
def isWide (c : Char) : Bool := 0x80 ≤ c.toNat

/-- A character that is no control character, apart from the tab. -/
def isPlain (c : Char) : Bool := c = '\t' || (0x20 ≤ c.toNat && c.toNat ≤ 0x7E) || isWide c

namespace Scan

def blanks : Scan Unit := do
  let _ ← takeWhile isBlank

/-- The end of a line, written with one character or with two. -/
def newline : Scan Unit :=
  orElse (do let _ ← char '\n') (do let _ ← char '\r'; let _ ← char '\n')

def comment : Scan Unit := do
  let _ ← char '#'
  let _ ← takeWhile isPlain

/-- The end of a line or of the text. -/
def lineEnd : Scan Unit := orElse newline atEnd

/-- What may follow on a line after everything else. -/
def lineTail : Scan Unit := do
  blanks
  let _ ← optional comment
  lineEnd

/-- Blanks and line ends, perhaps none. -/
def blankLines : Scan Unit := do
  let _ ← many (orElse newline (do let _ ← takeWhile1 isBlank))

/-- Blanks, line ends and comments. A comment or a carriage return without a line end fails. -/
def layout : Scan Unit := do
  blanks
  loop (fun _ => do
    match ← peek with
    | some '#' => comment; newline; blanks; return some ()
    | some '\n' | some '\r' => newline; blanks; return some ()
    | _ => return none) ()

end Scan
end DevServer.Toml
