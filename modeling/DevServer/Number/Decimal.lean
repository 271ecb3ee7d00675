/-!
Whole numbers in decimal: an optional sign and one or more ASCII digits, read from the left. A
number leaves the range at the first digit that takes it out, so a later character that is no
digit is not looked at any more.
-/
namespace DevServer.Number.Decimal

set_option autoImplicit false

/-- Why a text is not a whole number of the wanted range. -/
inductive Fault where
  | empty
  | badDigit
  | tooLarge
  | tooSmall
deriving Repr, DecidableEq

def Fault.message : Fault → String
  | .empty => "cannot parse integer from empty string"
  | .badDigit => "invalid digit found in string"
  | .tooLarge => "number too large to fit in target type"
  | .tooSmall => "number too small to fit in target type"

def digit? (c : Char) : Option Nat :=
  if '0' ≤ c ∧ c ≤ '9' then some (c.toNat - '0'.toNat) else none

/-- Appends digits to the number `n`, which stays at most `limit`. -/
def readDigits (limit : Nat) (n : Nat) : List Char → Except Fault Nat
  | [] => .ok n
  | c :: rest =>
    match digit? c with
    | none => .error .badDigit
    | some d => if n * 10 + d ≤ limit then readDigits limit (n * 10 + d) rest else .error .tooLarge

def readNumeral (limit : Nat) : List Char → Except Fault Nat
  | [] => .error .badDigit
  | s => readDigits limit 0 s

/-- A number from 0 to `limit`; a plus sign may stand before it. -/
def readNat (limit : Nat) : List Char → Except Fault Nat
  | [] => .error .empty
  | '+' :: rest => readNumeral limit rest
  | s => readNumeral limit s

/-- An integer from `-limit - 1` to `limit`; a sign may stand before it. -/
def readInt (limit : Nat) : List Char → Except Fault Int
  | [] => .error .empty
  | '+' :: rest => (readNumeral limit rest).map Int.ofNat
  | '-' :: rest =>
    match readNumeral (limit + 1) rest with
    | .ok n => .ok (-Int.ofNat n)
    | .error .tooLarge => .error .tooSmall
    | .error e => .error e
  | s => (readNumeral limit s).map Int.ofNat

/-- The largest number of two bytes. -/
def maxUInt16 : Nat := 65535

/-- The largest number of eight bytes. -/
def maxUInt64 : Nat := 18446744073709551615

/-- The largest signed number of eight bytes. -/
def maxInt64 : Nat := 9223372036854775807

/-- A number of two bytes, as ports are given. -/
def readUInt16? (s : String) : Option UInt16 :=
  (readNat maxUInt16 s.toList).toOption.map UInt16.ofNat

end DevServer.Number.Decimal
