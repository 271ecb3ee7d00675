import DevServer.Toml.Node

/-!
Showing where a document is at fault: the line, its text, and marks below the piece in question.
Pieces are measured in bytes here, since the marks are.
-/
namespace DevServer.Toml

set_option autoImplicit false

def byteLength (s : List Char) : Nat := (String.ofList s).utf8ByteSize

/-- A piece of a text, by the number of bytes before its two ends. -/
structure Bytes where
  start : Nat
  stop : Nat
deriving Repr, DecidableEq

/-- The piece of `text` that a span is. -/
def Span.toBytes (text : List Char) (span : Span) : Bytes :=
  let upTo (left : Nat) : Nat := byteLength (text.take (text.length - left))
  ⟨upTo span.start, upTo span.stop⟩

/-- A message about a piece of a text, or about all of it. -/
structure Excerpt where
  text : List Char
  span : Option Span
  message : String

namespace Excerpt

/-- The lines before a position, and what stands before it on its own line. -/
def position (before : List Char) : Nat × List Char :=
  (before.count '\n', (before.reverse.takeWhile (· ≠ '\n')).reverse)

/-- Line and column of a position, from zero. The column counts characters; before a character
of several bytes it counts bytes. Beyond the end it is one more than that of the last character. -/
def lineAndColumn (text : List Char) (left : Nat) : Nat × Nat :=
  let before := text.take (text.length - left)
  match text.drop (text.length - left) with
  | next :: _ =>
    let (line, onLine) := position before
    (line, if next.utf8Size = 1 then onLine.length else byteLength onLine)
  | [] =>
    if text.isEmpty then (0, 0)
    else
      let (line, onLine) := position before.dropLast
      (line, onLine.length + 1)

def lineOf (text : List Char) (n : Nat) : List Char :=
  (List.splitOnP (· = '\n') text)[n]?.getD []

/-- The message below the line that it is about. -/
def render (x : Excerpt) : String :=
  match x.span with
  | none => x.message ++ "\n"
  | some span =>
    let (line, column) := lineAndColumn x.text span.start
    let number := toString (line + 1)
    let content := lineOf x.text line
    let gutter := String.ofList (List.replicate (number.length + 1) ' ') ++ "|"
    let piece := span.toBytes x.text
    let marks := max 1 (min (piece.stop - piece.start) (byteLength content - column))
    s!"TOML parse error at line {number}, column {column + 1}\n" ++ gutter ++ "\n" ++
      number ++ " | " ++ String.ofList content ++ "\n" ++
      gutter ++ String.ofList (List.replicate (column + 1) ' ' ++ List.replicate marks '^') ++
      "\n" ++ x.message ++ "\n"

end Excerpt
end DevServer.Toml
