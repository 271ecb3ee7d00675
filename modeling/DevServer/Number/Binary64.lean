/-!
Numbers of double precision, exactly. A finite number is a sign, a mantissa `m` and an exponent
`e` and stands for `m * 2 ^ e`; reading a decimal rounds it to the nearest such number, a half to
the even mantissa, and writing gives the fewest digits that read back, the nearest of them if
there are several. All arithmetic is on natural numbers.
-/
namespace DevServer.Number

set_option autoImplicit false

/-- A number of double precision. All numbers that are none are one. -/
inductive Binary64 where
  | finite (negative : Bool) (mantissa : Nat) (exponent : Int)
  | infinite (negative : Bool)
  | nan
deriving Repr, DecidableEq

namespace Binary64

/-- The exponent of the smallest numbers. -/
def minExponent : Int := -1074

/-- The exponent of the largest numbers. -/
def maxExponent : Int := 971

/-- Mantissas have at most this many bits. -/
def precision : Nat := 53

/-- The quotient of two naturals, rounded to the nearest, a half to the even one. -/
def roundDiv (num den : Nat) : Nat :=
  let quotient := num / den
  let twice := 2 * (num % den)
  if twice < den then quotient
  else if den < twice then quotient + 1
  else if quotient % 2 = 0 then quotient else quotient + 1

def bits (n : Nat) : Nat := if n = 0 then 0 else n.log2 + 1

/-- The ratio times a power of `base`, whose exponent may be negative. -/
def scaleRatio (base : Nat) (e : Int) (q : Nat × Nat) : Nat × Nat :=
  if 0 ≤ e then (q.1 * Nat.pow base e.toNat, q.2) else (q.1, q.2 * Nat.pow base (-e).toNat)

/-- The number nearest to `num / den`, as mantissa and exponent; nothing beyond the largest. -/
def nearest? (num den : Nat) : Option (Nat × Int) :=
  let guess : Int := max minExponent ((bits num : Int) - bits den - precision)
  let scaled (e : Int) : Nat × Nat := scaleRatio 2 (-e) (num, den)
  let fits (e : Int) : Bool := (scaled e).1 / (scaled e).2 < Nat.pow 2 precision
  let e := if fits guess then guess else guess + 1
  let m := roundDiv (scaled e).1 (scaled e).2
  -- Rounding up may have given one bit too many.
  let (m, e) := if m = Nat.pow 2 precision then (m / 2, e + 1) else (m, e)
  if e ≤ maxExponent then some (m, e) else none

/-- The number nearest to `digits * 10 ^ scale`. Far beyond the range nothing is computed. -/
def ofDecimal (negative : Bool) (digits : Nat) (scale : Int) : Binary64 :=
  let size : Int := (Nat.toDigits 10 digits).length + scale
  if digits = 0 || size < -400 then .finite negative 0 minExponent
  else if 400 < size then .infinite negative
  else
    let q := scaleRatio 10 scale (digits, 1)
    match nearest? q.1 q.2 with
    | some (m, e) => .finite negative m e
    | none => .infinite negative

/-- Whether `d * 10 ^ s` reads back as `m * 2 ^ e`. -/
def readsBack (m : Nat) (e s : Int) (d : Nat) : Bool :=
  ofDecimal false d s = .finite false m e

/-- The numerator and denominator of `m * 2 ^ e / 10 ^ s`. -/
def ratio (m : Nat) (e s : Int) : Nat × Nat :=
  scaleRatio 10 (-s) (scaleRatio 2 e (m, 1))

/-- The nearest multiple of `10 ^ s` that reads back, if one of the two neighbours does. -/
def onGrid? (m : Nat) (e s : Int) : Option Nat :=
  let (num, den) := ratio m e s
  let low := num / den
  let first := roundDiv num den
  let second := if first = low then low + 1 else low
  if readsBack m e s first then some first
  else if readsBack m e s second then some second
  else none

/-- The coarsest grid from `10 ^ s` downwards with a number that reads back. -/
def coarsest (m : Nat) (e : Int) : Nat → Int → Nat × Int
  | 0, s => (0, s)
  | tries + 1, s =>
    match onGrid? m e s with
    | some d => (d, s)
    | none => coarsest m e tries (s - 1)

/-- Digits and scale of the shortest decimal that reads back. -/
def shortest (m : Nat) (e : Int) : Nat × Int :=
  let (num, den) := ratio m e 0
  let size : Int := if den ≤ num then (Nat.toDigits 10 (num / den)).length
    else 2 - ((Nat.toDigits 10 (den / num)).length : Int)
  coarsest m e 20 size

/-- Digits in positional notation, with a point and at least one digit after it. -/
def positional (digits : Nat) (scale : Int) : String :=
  let ds := Nat.toDigits 10 digits
  if 0 ≤ scale then
    String.ofList (if digits = 0 then ds else ds ++ List.replicate scale.toNat '0') ++ ".0"
  else
    let places := (-scale).toNat
    let padded := List.replicate (places + 1 - ds.length) '0' ++ ds
    String.ofList (padded.take (padded.length - places)) ++ "." ++
      String.ofList (padded.drop (padded.length - places))

/-- The text of a number: positional whatever its size, with a point if it is finite. -/
def render : Binary64 → String
  | .finite negative m e =>
    let (digits, scale) := if m = 0 then (0, 0) else shortest m e
    (if negative then "-" else "") ++ positional digits scale
  | .infinite negative => if negative then "-inf" else "inf"
  | .nan => "NaN"

end Binary64
end DevServer.Number
