import DevServer.Toml.Spacing

/-!
Strings of the four kinds. A basic string has escapes, a literal one has none; a string between
three quotes may span lines, and a line end directly after the opening quotes is no part of it.
Line ends inside a string read as `\n` however they are written.
-/
namespace DevServer.Toml

set_option autoImplicit false

def isHexDigit (c : Char) : Bool :=
  c.isDigit || ('a' ≤ c && c ≤ 'f') || ('A' ≤ c && c ≤ 'F')

/-- The value of a digit of a base up to sixteen. -/
def digitValue (c : Char) : Nat :=
  if c.isDigit then c.toNat - '0'.toNat
  else if 'a' ≤ c then c.toNat - 'a'.toNat + 10
  else c.toNat - 'A'.toNat + 10

/-- The number that digits of a base denote. -/
def ofDigits (base : Nat) (digits : List Char) : Nat :=
  digits.foldl (fun n c => n * base + digitValue c) 0

/-- Stands for itself in a basic string. -/
def isBasicChar (c : Char) : Bool := isPlain c && c ≠ '"' && c ≠ '\\'

/-- Stands for itself in a literal string. -/
def isLiteralChar (c : Char) : Bool := isPlain c && c ≠ '\''

/-- The letters after a backslash that stand for one character. -/
def shortEscapes : List (Char × Char) :=
  [('b', '\x08'), ('f', '\x0c'), ('n', '\n'), ('r', '\r'), ('t', '\t'), ('\\', '\\'), ('"', '"')]

/-- What may follow a backslash. -/
def escapeLetters : List Expected :=
  ["b", "f", "n", "r", "t", "u", "U", "\\", "\""].map .text

namespace Scan

/-- A character by its code point, written with exactly `n` digits. -/
def codePoint (n : Nat) : Scan Char :=
  check (fun digits =>
    let code := ofDigits 16 digits
    if code.isValidChar then .ok (Char.ofNat code) else .error (some .outOfRange))
    (takeExactly n isHexDigit)

/-- Fails as a letter does that means nothing after a backslash. -/
def badEscape : Scan Char := committed (expecting escapeLetters (labelled .escapeSequence (fail none)))

/-- An escape after its backslash. -/
def escapeLetter : Scan Char := do
  let start ← here
  let letter ← satisfy fun _ => true
  match shortEscapes.lookup letter with
  | some c => return c
  | none =>
    if letter = 'u' then labelled .shortCodePoint (committed (codePoint 4))
    else if letter = 'U' then labelled .longCodePoint (committed (codePoint 8))
    else
      -- the position is that of the character itself if it lies beyond ASCII
      if isWide letter then set start
      badEscape

/-- A backslash and what follows it. -/
def escape : Scan Char := do
  let _ ← char '\\'
  escapeLetter

def basicPiece : Scan (List Char) :=
  orElse (takeWhile1 isBasicChar) (do return [← escape])

def basicString : Scan (List Char) := do
  let _ ← char '"'
  let pieces ← many basicPiece
  let _ ← labelled .basicString (committed (char '"'))
  return pieces.flatten

def literalString : Scan (List Char) := labelled .literalString do
  let _ ← char '\''
  let content ← takeWhile isLiteralChar
  let _ ← committed (char '\'')
  return content

def tripleQuote (quote : Char) : Scan Unit := literal [quote, quote, quote]

/-- One or two quotes that belong to the content because of what follows them. -/
def innerQuotes (quote : Char) (next : Scan Unit) : Scan (List Char) :=
  orElse (do literal [quote, quote]; lookahead next; return [quote, quote])
    (do literal [quote]; lookahead next; return [quote])

/-- Any character but the given one. -/
def otherThan (quote : Char) : Scan Unit := do
  let _ ← satisfy (· ≠ quote)

/-- A line end behind a backslash, with the blanks and line ends after it. -/
def continuation : Scan Unit := do
  let _ ← char '\\'
  blanks
  newline
  blankLines

def multilineBasicPiece : Scan (List Char) :=
  orElse (takeWhile1 isBasicChar)
    (orElse (do let _ ← many1 continuation; return [])
      (orElse (do return [← escape]) (do newline; return ['\n'])))

/-- Quotes inside a basic string over several lines, with the pieces after them. Quotes without
a piece after them are taken and end the content. -/
def quotedBasicPieces : Scan (Option (List Char)) := do
  match ← optional (innerQuotes '"' (otherThan '"')) with
  | none => return none
  | some quotes =>
    let pieces ← many multilineBasicPiece
    return some (quotes ++ pieces.flatten)

/-- The content of a basic string over several lines. -/
def multilineBasicBody : Scan (List Char) := do
  let first ← many multilineBasicPiece
  let more ← loop (fun acc => do
    match ← quotedBasicPieces with
    | none => return none
    | some piece => return some (piece :: acc)) []
  let quotes ← optional (innerQuotes '"' (tripleQuote '"'))
  return first.flatten ++ more.reverse.flatten ++ quotes.getD []

def multilineBasicString : Scan (List Char) := labelled .multilineBasicString do
  tripleQuote '"'
  let _ ← optional newline
  let content ← committed multilineBasicBody
  committed (tripleQuote '"')
  return content

def multilineLiteralPiece : Scan (List Char) :=
  orElse (takeWhile1 isLiteralChar) (do newline; return ['\n'])

/-- Quotes inside a literal string over several lines, with the pieces after them. -/
def quotedLiteralPieces : Scan (List Char) := do
  let quotes ← innerQuotes '\'' (otherThan '\'')
  let pieces ← many1 multilineLiteralPiece
  return quotes ++ pieces.flatten

def multilineLiteralString : Scan (List Char) := labelled .multilineLiteralString do
  tripleQuote '\''
  let _ ← optional newline
  let first ← many multilineLiteralPiece
  let more ← many quotedLiteralPieces
  let quotes ← optional (innerQuotes '\'' (tripleQuote '\''))
  committed (tripleQuote '\'')
  return first.flatten ++ more.flatten ++ quotes.getD []

def string : Scan (List Char) :=
  orElse multilineBasicString
    (orElse basicString (orElse multilineLiteralString literalString))

end Scan
end DevServer.Toml
