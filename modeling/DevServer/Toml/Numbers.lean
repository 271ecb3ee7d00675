import DevServer.Number.Binary64
import DevServer.Toml.Strings

/-!
Integers of eight bytes, in decimal with a sign or in base sixteen, eight or two without one, and
numbers of double precision. Single underscores may stand between digits.
-/
namespace DevServer.Toml

set_option autoImplicit false

/-- A digit of a base up to ten. -/
def isDigitBelow (base : Nat) (c : Char) : Bool := c.isDigit && digitValue c < base

namespace Scan

/-- A digit, or an underscore that a digit follows. -/
def digitOrGap (isDigit : Char → Bool) : Scan (List Char) :=
  orElse (do return [← satisfy isDigit]) do
    let _ ← char '_'
    let d ← committed (expecting [.named "digit"] (satisfy isDigit))
    return [d]

/-- A digit and digits after it, without the underscores among them. -/
def digitRun (isDigit : Char → Bool) : Scan (List Char) := do
  let first ← satisfy isDigit
  let more ← many (digitOrGap isDigit)
  return first :: more.flatten

def sign : Scan (Option Char) := optional (satisfy fun c => c = '+' || c = '-')

/-- The sign and digits of a decimal integer without leading zeros. -/
def decimalInteger : Scan (Option Char × List Char) := labelled .integer do
  let s ← sign
  let digits ← orElse
    (do
      let first ← satisfy fun c => c.isDigit && c ≠ '0'
      let more ← many (digitOrGap Char.isDigit)
      return first :: more.flatten)
    (do return [← satisfy Char.isDigit])
  return (s, digits)

/-- An integer of eight bytes. -/
def inRange (n : Int) : Except (Option Cause) Int :=
  if n < -9223372036854775808 then .error (some (.number .tooSmall))
  else if 9223372036854775807 < n then .error (some (.number .tooLarge))
  else .ok n

/-- The integer that a sign and digits denote. -/
def signed (base : Nat) (r : Option Char × List Char) : Int :=
  if r.1 = some '-' then -(ofDigits base r.2 : Int) else ofDigits base r.2

/-- An integer whose base is written before it. -/
def based (mark : List Char) (part : Part) (base : Nat) (isDigit : Char → Bool) : Scan Int :=
  committed (check inRange (labelled part do
    literal mark
    let digits ← committed (digitRun isDigit)
    return signed base (none, digits)))

def integer : Scan Int := do
  match (← here).rest with
  | '0' :: 'x' :: _ => based ['0', 'x'] .hexadecimalInteger 16 isHexDigit
  | '0' :: 'o' :: _ => based ['0', 'o'] .octalInteger 8 (isDigitBelow 8)
  | '0' :: 'b' :: _ => based ['0', 'b'] .binaryInteger 2 (isDigitBelow 2)
  | _ => require inRange (signed 10 <$> decimalInteger)

/-- The digits after a point. -/
def fraction : Scan (List Char) := do
  let _ ← char '.'
  committed (expecting [.named "digit"] (digitRun Char.isDigit))

/-- A power of ten. -/
def exponent : Scan Int := do
  let _ ← satisfy fun c => c = 'e' || c = 'E'
  let s ← sign
  let digits ← committed (digitRun Char.isDigit)
  return signed 10 (s, digits)

/-- A decimal with a fraction or a power of ten. -/
def decimal : Scan Number.Binary64 := do
  let (s, whole) ← decimalInteger
  let (places, scale) ← orElse
    (do return ([], ← exponent))
    (do
      let places ← fraction
      return (places, (← optional exponent).getD 0))
  return .ofDecimal (s = some '-') (ofDigits 10 (whole ++ places)) (scale - places.length)

/-- Positive numbers that are too large are refused, negative ones are infinite. -/
def notTooLarge (x : Number.Binary64) : Except (Option Cause) Number.Binary64 :=
  if x = .infinite false then .error none else .ok x

/-- A number written by a word. -/
def specialNumber : Scan Number.Binary64 := do
  let s ← sign
  orElse (do literal ['i', 'n', 'f']; return .infinite (s = some '-'))
    (do literal ['n', 'a', 'n']; return .nan)

def floatingPoint : Scan Number.Binary64 := labelled .floatingPoint do
  orElse (require notTooLarge decimal) specialNumber

end Scan
end DevServer.Toml
