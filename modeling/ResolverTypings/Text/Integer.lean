import ResolverTypings.Text.Blank
import ResolverTypings.Text.Digit
import ResolverTypings.Text.Fields

/-!
# Integers in any script

Reading an integer: blanks around it do not count, a sign may stand in front, its digits
are those of any script that Unicode 14 lists, and an underscore may stand between two
of them.
-/
namespace ResolverTypings.Text

/-- The zeros of all scripts; the other digits follow each of them in order. -/
def zeros : Array Nat := #[
  48, 1632, 1776, 1984, 2406, 2534, 2662, 2790, 2918, 3046, 3174, 3302, 3430, 3558, 3664, 3792,
  3872, 4160, 4240, 6112, 6160, 6470, 6608, 6784, 6800, 6992, 7088, 7232, 7248, 42528, 43216,
  43264, 43472, 43504, 43600, 44016, 65296, 66720, 68912, 69734, 69872, 69942, 70096, 70384,
  70736, 70864, 71248, 71360, 71472, 71904, 72016, 72784, 73040, 73120, 92768, 92864, 93008,
  120782, 120792, 120802, 120812, 120822, 123200, 123632, 125264, 130032]

/-- The value of a decimal digit of any script. -/
def decimalDigit? (c : Char) : Option Nat :=
  (zeros.find? fun first => first ≤ c.toNat && c.toNat < first + 10).map (c.toNat - ·)

/-- The number that digits write between which single underscores may stand. -/
def readNatural? (cs : List Char) : Option Nat := do
  let groups := fields (· == '_') cs
  if groups.any (·.isEmpty) then none
  else
    let digits ← groups.flatten.mapM decimalDigit?
    if maxIntegerDigits < digits.length then none
    else return digits.foldl (fun n digit => 10 * n + digit) 0

/-- The integer that a text writes. -/
def readInteger? (cs : List Char) : Option Int :=
  match trim cs with
  | '+' :: digits => (readNatural? digits).map fun (n : Nat) => (n : Int)
  | '-' :: digits => (readNatural? digits).map fun (n : Nat) => -(n : Int)
  | digits => (readNatural? digits).map fun (n : Nat) => (n : Int)

end ResolverTypings.Text
