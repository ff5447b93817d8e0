import ResolverTypings.Text.RawText

/-!
# Text in wide units

Reading text from units of two or of four bytes, with the first or the last byte of a
unit as the one that counts most. Two units of two bytes may name one character. Half
of such a pair that stands alone is kept as a surrogate.
-/
namespace ResolverTypings.Text

/-- The order of the bytes in a unit. -/
inductive ByteOrder where
  | greatestFirst
  | leastFirst
  deriving Repr, DecidableEq, Inhabited

/-- The number that the bytes of a unit write. -/
def ByteOrder.number : ByteOrder → List Nat → Nat
  | .greatestFirst, bytes => bytes.foldl (fun n byte => n * 256 + byte) 0
  | .leastFirst, bytes => bytes.foldr (fun byte n => n * 256 + byte) 0

/-- The units of two bytes, if no byte is left over. -/
def units2? (order : ByteOrder) : List Nat → Option (List Nat)
  | a :: b :: rest => (units2? order rest).map (order.number [a, b] :: ·)
  | [] => some []
  | _ => none

/-- The units of four bytes, if no byte is left over. -/
def units4? (order : ByteOrder) : List Nat → Option (List Nat)
  | a :: b :: c :: d :: rest => (units4? order rest).map (order.number [a, b, c, d] :: ·)
  | [] => some []
  | _ => none

/-- The text of units of two bytes. -/
def textOfUnits2 : List Nat → Option RawText
  | high :: low :: rest =>
    if isHighSurrogate high && isLowSurrogate low then
      (textOfUnits2 rest).map (.char (joinSurrogates high low) :: ·)
    else do return (← CodePoint.ofNat? high) :: (← textOfUnits2 (low :: rest))
  | [unit] => (CodePoint.ofNat? unit).map ([·])
  | [] => some []

/-- The text that bytes hold in units of two. -/
def decodeUnits2 (order : ByteOrder) (bytes : List Nat) : Option RawText := do
  textOfUnits2 (← units2? order bytes)

/-- The text that bytes hold in units of four. A number beyond the last character is that
of none. -/
def decodeUnits4 (order : ByteOrder) (bytes : List Nat) : Option RawText := do
  (← units4? order bytes).mapM CodePoint.ofNat?

end ResolverTypings.Text
