/-!
# Numbers of the binary64 format

A finite number is `mantissa * 2 ^ exponent` with a mantissa below `2 ^ 53` and an
exponent between -1074 and 971; the mantissa is at least `2 ^ 52` unless the exponent
is the least one. A decimal is read as the nearest number of the format, and of two
equally near ones as that with the even mantissa.
-/
namespace ResolverTypings.Decimal

/-- A number of the binary64 format. -/
inductive Binary64 where
  | nan
  | infinite (negative : Bool)
  | finite (negative : Bool) (mantissa : Nat) (exponent : Int)
  deriving Repr, DecidableEq, Inhabited

/-- The quotient rounded to the nearest integer, a half to the even one. -/
def divNearest (num den : Nat) : Nat :=
  let floor := num / den
  let twice := 2 * (num % den)
  if twice < den then floor
  else if den < twice then floor + 1
  else floor + floor % 2

namespace Binary64

/-- The least mantissa of 53 binary digits, `2 ^ 52`. -/
def leastFull : Nat := 1 <<< 52

/-- The least exponent of the format. -/
def minExponent : Int := -1074

/-- The greatest exponent of the format. -/
def maxExponent : Int := 971

/-- `num / den` divided by a power of two, as a fraction. -/
def scale (num den : Nat) (exponent : Int) : Nat × Nat :=
  if 0 ≤ exponent then (num, den <<< exponent.toNat) else (num <<< (-exponent).toNat, den)

/-- The exponent at which the mantissa of a positive fraction has 53 binary digits, or
the least one of the format. -/
def exponentFor (num den : Nat) : Int :=
  let guess : Int := (Nat.log2 num : Int) - (Nat.log2 den : Int) - 52
  let (n, d) := scale num den guess
  max minExponent (if n / d < leastFull then guess - 1 else guess)

/-- The number of the format nearest to a fraction. -/
def ofFraction (negative : Bool) (num den : Nat) : Binary64 :=
  if num = 0 then .finite negative 0 minExponent
  else
    let exponent := exponentFor num den
    let (n, d) := scale num den exponent
    let mantissa := divNearest n d
    let (mantissa, exponent) :=
      if mantissa = 2 * leastFull then (leastFull, exponent + 1) else (mantissa, exponent)
    if maxExponent < exponent then .infinite negative
    else .finite negative mantissa exponent

/-- The number of the format nearest to `digits * 10 ^ power`. Decimals whose size is
beyond the format are settled without writing their power of ten out. -/
def ofDecimal (negative : Bool) (digits : Nat) (power : Int) : Binary64 :=
  let size : Int := (Nat.toDigits 10 digits).length + power
  if digits = 0 ∨ size < -400 then .finite negative 0 minExponent
  else if 400 < size then .infinite negative
  else if 0 ≤ power then ofFraction negative (digits * Nat.pow 10 power.toNat) 1
  else ofFraction negative digits (Nat.pow 10 (-power).toNat)

/-- The integer that the number is, if it is one. -/
def integer? : Binary64 → Option Int
  | .finite negative mantissa exponent =>
    let (num, den) := scale mantissa 1 (-exponent)
    let size : Int := (num / den : Nat)
    if num % den = 0 then some (if negative then -size else size) else none
  | _ => none

end Binary64
end ResolverTypings.Decimal
