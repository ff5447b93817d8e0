import ResolverTypings.Decimal.Binary64

/-!
# The shortest decimal that reads back

A positive number of the format is written with the fewest significant digits that
read back as the same number; of two candidates of that length the nearer one is
taken. Numbers from `10 ^ -4` up to below `10 ^ 16` are written positionally, all
others with an exponent of at least two digits.
-/
namespace ResolverTypings.Decimal

/-- A positive fraction with the interval of fractions that read as the same number,
all over one denominator. -/
structure Reading where
  den : Nat
  low : Nat
  value : Nat
  high : Nat
  /-- Whether the ends of the interval belong to it. -/
  closed : Bool
  deriving Repr

/-- The interval around `mantissa * 2 ^ exponent`. Below a power of two the next
number is half as far away. -/
def Reading.of (mantissa : Nat) (exponent : Int) : Reading :=
  let below := if mantissa = Binary64.leastFull ∧ Binary64.minExponent < exponent then 1 else 2
  let unit := if 0 ≤ exponent then 1 <<< exponent.toNat else 1
  { den := 4 * (if 0 ≤ exponent then 1 else 1 <<< (-exponent).toNat)
    low := (4 * mantissa - below) * unit
    value := 4 * mantissa * unit
    high := (4 * mantissa + 2) * unit
    closed := mantissa % 2 = 0 }

/-- The fraction `count * 10 ^ power` over a denominator that it shares with the
reading: its numerator and the factor by which the reading's numerators grow. -/
def Reading.align (r : Reading) (count : Nat) (power : Int) : Nat × Nat :=
  if 0 ≤ power then (count * Nat.pow 10 power.toNat * r.den, 1)
  else (count * r.den, Nat.pow 10 (-power).toNat)

/-- Whether `count * 10 ^ power` reads as the number. -/
def Reading.holds (r : Reading) (count : Nat) (power : Int) : Bool :=
  let (x, f) := r.align count power
  if r.closed then r.low * f ≤ x && x ≤ r.high * f else r.low * f < x && x < r.high * f

/-- How far `count * 10 ^ power` is from the number, in units that depend on the power
alone. -/
def Reading.distance (r : Reading) (count : Nat) (power : Int) : Nat :=
  let (x, f) := r.align count power
  (x - r.value * f) + (r.value * f - x)

/-- The number rounded down to a multiple of `10 ^ power`, as the count of them. -/
def Reading.floor (r : Reading) (power : Int) : Nat :=
  if 0 ≤ power then r.value / (r.den * Nat.pow 10 power.toNat)
  else r.value * Nat.pow 10 (-power).toNat / r.den

/-- The decimal on the grid of multiples of `10 ^ power` that reads as the number: the
nearer one of the two neighbours, and the even one if both are equally near. -/
def Reading.onGrid (r : Reading) (power : Int) : Option Nat :=
  let down := r.floor power
  let up := down + 1
  match r.holds down power && 0 < down, r.holds up power with
  | true, true =>
    let below := r.distance down power
    let above := r.distance up power
    if below < above ∨ (below = above ∧ down % 2 = 0) then some down else some up
  | true, false => some down
  | false, true => some up
  | false, false => none

/-- The power of ten of the leading digit. -/
def Reading.magnitude (r : Reading) : Int :=
  let whole := r.value / r.den
  if 0 < whole then ((Nat.toDigits 10 whole).length : Int) - 1
  else
    match (List.range 330).find? fun j => r.den ≤ r.value * Nat.pow 10 j with
    | some j => -(j : Int)
    | none => -330

/-- The first grid, coarsest first, that has a decimal which reads as the number. -/
def Reading.shortest (r : Reading) : Nat × Int :=
  let grids := (List.range 18).map fun (n : Nat) => r.magnitude - n
  match grids.findSome? fun power => (r.onGrid power).map fun count => (count, power) with
  | some found => found
  | none => (r.value / r.den, 0)

/-- Digits without their zeros at the end, and the number of zeros dropped. -/
def dropZeros (digits : List Char) : List Char × Nat :=
  let rest := (digits.reverse.dropWhile (· = '0')).reverse
  (rest, digits.length - rest.length)

/-- Significant digits with the power of ten of the first one, written out. -/
def layout (digits : List Char) (magnitude : Int) : List Char :=
  if 0 ≤ magnitude ∧ magnitude < 16 then
    let width := magnitude.toNat + 1
    let whole := digits.take width ++ List.replicate (width - digits.length) '0'
    let fraction := digits.drop width
    whole ++ '.' :: (if fraction.isEmpty then ['0'] else fraction)
  else if -4 ≤ magnitude ∧ magnitude < 0 then
    '0' :: '.' :: (List.replicate ((-magnitude).toNat - 1) '0' ++ digits)
  else
    let power := Nat.toDigits 10 magnitude.natAbs
    let power := List.replicate (2 - power.length) '0' ++ power
    digits.take 1 ++ (if digits.length ≤ 1 then [] else '.' :: digits.drop 1) ++
      'e' :: (if magnitude < 0 then '-' else '+') :: power

/-- The text of a positive finite number. -/
def positiveText (mantissa : Nat) (exponent : Int) : List Char :=
  let (count, power) := (Reading.of mantissa exponent).shortest
  let all := Nat.toDigits 10 count
  layout (dropZeros all).1 (power + (all.length : Int) - 1)

/-- The text of a number of the format. -/
def Binary64.text : Binary64 → String
  | .nan => "nan"
  | .infinite negative => if negative then "-inf" else "inf"
  | .finite negative mantissa exponent =>
    let sign := if negative then "-" else ""
    if mantissa = 0 then sign ++ "0.0" else sign ++ String.ofList (positiveText mantissa exponent)

end ResolverTypings.Decimal
