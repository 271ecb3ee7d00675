import DevServer.Text.Printable
import DevServer.Text.Utf8

/-!
Quoted text: the form in which a diagnostic shows a string so that no character of it can be
mistaken for the text around it. Line breaks, tabs and quotes get short escapes, characters that
cannot be seen or that would join the quote before them are written by code point.
-/
namespace DevServer.Text.Quoted

set_option autoImplicit false

/-- A natural number in lower-case hexadecimal. -/
def hex (n : Nat) : String := String.ofList (Nat.toDigits 16 n)

/-- A character written by its code point. -/
def codePoint (c : Char) : String := "\\u\x7b" ++ hex c.toNat ++ "\x7d"

/-- The escapes that text in double quotes and text of paths share. -/
def escape (c : Char) : String :=
  if c = '\x00' then "\\0"
  else if c = '\t' then "\\t"
  else if c = '\r' then "\\r"
  else if c = '\n' then "\\n"
  else if c = '\\' then "\\\\"
  else if c = '"' then "\\\""
  else if Printable.isCombining c || !Printable.isPrintable c then codePoint c
  else String.singleton c

/-- A string between double quotes, with everything escaped that cannot be read as itself. -/
def quote (s : String) : String :=
  "\"" ++ String.join (s.toList.map escape) ++ "\""

/-- `none` and `some` of a quoted string, the form of an optional value in a diagnostic. -/
def quoteOption : Option String → String
  | none => "None"
  | some s => "Some(" ++ quote s ++ ")"

/-- A bracketed list of quoted strings. -/
def quoteList (xs : List String) : String :=
  "[" ++ ", ".intercalate (xs.map quote) ++ "]"

/-- The name of a file between double quotes. Such a name is bytes; those that are no text are
written as bytes, and here a single quote is escaped too. -/
def quotePath (path : List UInt8) : String :=
  let piece : Utf8.Piece → String
    | .char c => if c = '\'' then "\\'" else escape c
    | .bytes bs => String.join (bs.map fun b =>
        "\\x" ++ String.ofList [(Nat.digitChar (b.toNat / 16)).toUpper,
          (Nat.digitChar (b.toNat % 16)).toUpper])
  "\"" ++ String.join ((Utf8.pieces path).map piece) ++ "\""

end DevServer.Text.Quoted
