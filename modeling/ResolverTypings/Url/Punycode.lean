/-!
# Punycode

A text in letters, digits and hyphens. The characters of ASCII come first, and behind a
hyphen follow the others in the order of their code points. Each is told by the number
of steps that lead to it: a step goes to the next gap between the characters so far, and
from the last gap to the first gap for the next code point. The steps are numbers of
base 36 whose digits tell by their size whether another one follows.
-/
namespace ResolverTypings.Url.Punycode

/-! ## Digits -/

/-- The base of the digits. -/
def base : Nat := 36

/-- The greatest threshold of a digit. -/
def maxThreshold : Nat := 26

/-- The bias that numbers start with. -/
def firstBias : Nat := 72

/-- The first code point beyond ASCII. -/
def firstCode : Nat := 0x80

/-- The digit of a value: letters and then the digits of decimal numbers. -/
def digitChar (value : Nat) : Char :=
  if value < 26 then Char.ofNat ('a'.toNat + value) else Char.ofNat ('0'.toNat + value - 26)

/-- The value of a digit. -/
def digitValue? (c : Char) : Option Nat :=
  if 'a' ≤ c ∧ c ≤ 'z' then some (c.toNat - 'a'.toNat)
  else if 'A' ≤ c ∧ c ≤ 'Z' then some (c.toNat - 'A'.toNat)
  else if '0' ≤ c ∧ c ≤ '9' then some (c.toNat - '0'.toNat + 26)
  else none

/-- The threshold of the digit at a place, which counts in steps of the base: a digit
below it is the last one of its number. -/
def threshold (bias place : Nat) : Nat :=
  max 1 (min maxThreshold (place - bias))

theorem threshold_pos (bias place : Nat) : 0 < threshold bias place := by
  unfold threshold
  omega

/-- Divide until little is left, and count the divisions in steps of the base. -/
def settle (delta : Nat) : Nat × Nat :=
  if 455 < delta then
    let (left, divisions) := settle (delta / 35)
    (left, divisions + base)
  else (delta, 0)
termination_by delta
decreasing_by omega

/-- The bias for the number behind one that was the given one, which led to the given
count of characters. -/
def adapt (isFirst : Bool) (delta count : Nat) : Nat :=
  let damped := if isFirst then delta / 700 else delta / 2
  let (left, divisions) := settle (damped + damped / count)
  divisions + base * left / (left + 38)

/-! ## Writing -/

/-- The digits of a number from a place on. -/
def writeNumber (bias place n : Nat) : List Char :=
  let least := threshold bias place
  if n < least then [digitChar n]
  else
    digitChar (least + (n - least) % (base - least)) ::
      writeNumber bias (place + base) ((n - least) / (base - least))
termination_by n
decreasing_by
  have hpos := threshold_pos bias place
  have hdiv := Nat.div_le_self (n - threshold bias place) (base - threshold bias place)
  omega

/-- The digits of the steps to further characters, of which there are some already. -/
def writeSteps (isFirst : Bool) (bias count : Nat) : List Nat → List Char
  | [] => []
  | steps :: rest =>
    writeNumber bias base steps ++
      writeSteps false (adapt isFirst steps (count + 1)) (count + 1) rest

/-- The steps to each character with a code point, after some steps, and those behind the
last one. -/
def stepsTo (code : Nat) : (steps : Nat) → List Char → List Nat × Nat
  | steps, [] => ([], steps)
  | steps, c :: cs =>
    if c.toNat < code then stepsTo code (steps + 1) cs
    else if c.toNat = code then
      let (further, left) := stepsTo code 0 cs
      (steps :: further, left)
    else stepsTo code steps cs

/-- The steps to the characters of a text with the given code points in ascending order.
So far there are some characters, and steps have led to the first gap for a code point. -/
def stepsToAll (text : List Char) (count code steps : Nat) : List Nat → List Nat
  | [] => []
  | next :: rest =>
    let (found, left) := stepsTo next (steps + (next - code) * (count + 1)) text
    found ++ stepsToAll text (count + found.length) (next + 1) (left + 1) rest

/-- A text in letters, digits and hyphens. -/
def encode (text : List Char) : List Char :=
  let plain := text.filter (·.toNat < firstCode)
  let codes := ((text.map Char.toNat).filter (firstCode ≤ ·)).mergeSort.eraseDups
  let steps := stepsToAll text plain.length firstCode 0 codes
  plain ++ (if plain.isEmpty then [] else ['-']) ++
    writeSteps true firstBias plain.length steps

/-! ## Reading -/

/-- A number of which some digits have been read. -/
structure Unfinished where
  steps : Nat := 0
  /-- What the next digit counts. -/
  weight : Nat := 1
  place : Nat := base
  deriving Repr, DecidableEq, Inhabited

/-- The steps that digits tell, where a number may have been begun. -/
def readSteps (isFirst : Bool) (bias count : Nat) (begun : Unfinished) :
    List Char → Option (List Nat)
  | [] => if begun.place = base then some [] else none
  | c :: cs => do
    let digit ← digitValue? c
    let steps := begun.steps + digit * begun.weight
    let least := threshold bias begun.place
    if digit < least then
      return steps ::
        (← readSteps false (adapt isFirst steps (count + 1)) (count + 1) {} cs)
    else
      let weight := begun.weight * (base - least)
      readSteps isFirst bias count { steps, weight, place := begun.place + base } cs

/-- The last code point. -/
def lastCode : Nat := 0x10FFFF

/-- The character with a code point. The replacement character stands for code points
that are kept from text. -/
def charOf (code : Nat) : Char :=
  if code.isValidChar then Char.ofNat code else '\uFFFD'

/-- The text that steps lead to, from a gap for a code point on. -/
def insertAll (text : List Char) (code gap : Nat) : List Nat → Option (List Char)
  | [] => some text
  | steps :: rest =>
    let reached := gap + steps
    let next := code + reached / (text.length + 1)
    let place := reached % (text.length + 1)
    if next ≤ lastCode then
      insertAll (text.take place ++ charOf next :: text.drop place) next (place + 1) rest
    else none

/-- The characters before the last hyphen of a text, and the digits behind it. A hyphen
has characters before it, so that one in front of the text counts among the digits, where
it has no value. -/
def splitAtLastHyphen (text : List Char) : List Char × List Char :=
  let behind := text.reverse.takeWhile (· ≠ '-')
  let plain := text.take (text.length - behind.length - 1)
  if plain.isEmpty then ([], text) else (plain, behind.reverse)

/-- The text that is written in letters, digits and hyphens. -/
def decode? (text : List Char) : Option (List Char) := do
  let (plain, digits) := splitAtLastHyphen text
  let steps ← readSteps true firstBias plain.length {} digits
  insertAll plain firstCode 0 steps

end ResolverTypings.Url.Punycode
