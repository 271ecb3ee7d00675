import DevServer.Toml.Assembly

/-!
Reading a whole document: lines with an entry, a header, a comment or nothing. The result is the
table of the document, or the first failure.
-/
namespace DevServer.Toml

set_option autoImplicit false

/-- The mark that may stand before a text. -/
def byteOrderMark : Char := '\uFEFF'

/-- A cause or a value, as `Scan.check` wants it. -/
def asCheck {α : Type} : Except Cause α → Except (Option Cause) α
  | .ok a => .ok a
  | .error cause => .error (some cause)

namespace Scan

/-- A comment with the end of its line. -/
def commentLine : Scan Unit := do
  comment
  lineEnd

/-- A path between brackets. -/
def header (opening closing : List Char) : Scan (List Key × Span) :=
  spanned do
    literal opening
    let path ← committed dottedKey
    expecting [.text ".", .text (String.ofList closing)] (committed (literal closing))
    return path

/-- The rest of the line of a header or an entry. -/
def lineTailExpected : Scan Unit := expecting [.named "newline", .text "#"] lineTail

/-- A header opens its table. -/
def headerLine (a : Assembly) : Scan Assembly := labelled .tableHeader do
  let start ← here
  match start.rest with
  | '[' :: '[' :: _ =>
    check (fun (path, span) => asCheck (a.openTable path true span)) do
      let r ← header ['[', '['] [']', ']']
      committed lineTailExpected
      return r
  | _ :: _ :: _ =>
    check (fun (path, span) => asCheck (a.openTable path false span)) do
      let r ← header ['['] [']']
      committed lineTailExpected
      return r
  | _ => fail none

/-- An entry goes into the open table. -/
def entryLine (a : Assembly) : Scan Assembly :=
  check (fun e => asCheck (a.add e)) (entry value lineTailExpected)

/-- One line of whatever kind, with the blanks that the next one begins with. -/
def line (a : Assembly) : Scan Assembly := do
  let a ← match ← peek with
    | none => fail none
    | some '#' => committed (do commentLine; return a)
    | some '[' => committed (headerLine a)
    | some '\n' | some '\r' => do newline; pure a
    | some _ => committed (entryLine a)
  blanks
  return a

def document : Scan Table := do
  let _ ← optional (char byteOrderMark)
  blanks
  let a ← iterate line {}
  atEnd
  match a.close with
  | .ok t => return t
  | .error cause => fail (some cause)

end Scan

/-- The document that a text is. -/
def read (text : List Char) : Except Failure Table :=
  (Scan.document (Cursor.ofText text)).map Prod.fst

end DevServer.Toml
