/-!
Blank characters and trimming. A blank is a character of Unicode's `White_Space` property, so
the set reaches beyond ASCII; case folding in this library is ASCII only (`Char.toLower`).
-/
namespace DevServer.Text.Blank

set_option autoImplicit false

/-- The characters of the `White_Space` property. -/
def isBlank (c : Char) : Bool :=
  (9 ≤ c.toNat && c.toNat ≤ 13) || (0x2000 ≤ c.toNat && c.toNat ≤ 0x200A) ||
    [0x20, 0x85, 0xA0, 0x1680, 0x2028, 0x2029, 0x202F, 0x205F, 0x3000].contains c.toNat

/-- Blanks dropped at both ends. -/
def trim (s : List Char) : List Char :=
  ((s.dropWhile isBlank).reverse.dropWhile isBlank).reverse

/-- Letters of ASCII in lower case, all else as it is. -/
def foldCase (s : List Char) : List Char := s.map Char.toLower

end DevServer.Text.Blank
