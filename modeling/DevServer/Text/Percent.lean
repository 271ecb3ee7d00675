import DevServer.Text.Utf8

/-!
Percent-decoding of a path segment. A percent sign that two hexadecimal digits do not follow
stands for itself, so that decoding never fails on the escapes; only the bytes may fail to be text.
-/
namespace DevServer.Text.Percent

set_option autoImplicit false

/-- The value of a hexadecimal digit. -/
def digit? (b : UInt8) : Option UInt8 :=
  if 0x30 ≤ b && b ≤ 0x39 then some (b - 0x30)
  else if 0x41 ≤ b && b ≤ 0x46 then some (b - 0x41 + 10)
  else if 0x61 ≤ b && b ≤ 0x66 then some (b - 0x61 + 10)
  else none

/-- Replaces each escape by the byte that it names. -/
def unescape : List UInt8 → List UInt8
  | 0x25 :: a :: b :: rest =>
    match digit? a, digit? b with
    | some x, some y => (x * 16 + y) :: unescape rest
    | _, _ => 0x25 :: unescape (a :: b :: rest)
  | b :: rest => b :: unescape rest
  | [] => []
termination_by bytes => bytes.length

/-- The decoded text, unless the bytes are not UTF-8. -/
def decode? (s : String) : Option String :=
  (Utf8.decode (unescape (Utf8.encode s))).toOption

end DevServer.Text.Percent
