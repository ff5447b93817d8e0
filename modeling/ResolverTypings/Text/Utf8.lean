import ResolverTypings.Text.RawText

/-!
# UTF-8

Reading text from its bytes. The first byte of a character gives the number of bytes
that follow it; the second byte is further restricted so that no character has two
forms, none is a surrogate and none lies beyond the last one. Text with a surrogate in it
has no bytes.
-/
namespace ResolverTypings.Text.Utf8

/-- What keeps bytes from being text. -/
inductive Reason where
  | invalidStart
  | invalidContinuation
  | unexpectedEnd
  deriving Repr, DecidableEq, Inhabited

/-- The bytes at which reading stopped. -/
structure DecodeError where
  reason : Reason
  offset : Nat
  length : Nat
  /-- The first of the bytes. -/
  byte : Nat
  deriving Repr, DecidableEq, Inhabited

/-- The number of bytes that follow the first one of a character. -/
def tailLength (first : Nat) : Option Nat :=
  if first < 0x80 then some 0
  else if first < 0xC2 then none
  else if first < 0xE0 then some 1
  else if first < 0xF0 then some 2
  else if first < 0xF5 then some 3
  else none

/-- Whether a byte can follow the first one of a character at once. -/
def isSecond (first second : Nat) : Bool :=
  let least := if first = 0xE0 then 0xA0 else if first = 0xF0 then 0x90 else 0x80
  let bound := if first = 0xED then 0xA0 else if first = 0xF4 then 0x90 else 0xC0
  least ≤ second && second < bound

/-- Whether a byte can stand further behind the first one of a character. -/
def isContinuation (byte : Nat) : Bool := 0x80 ≤ byte && byte < 0xC0

/-- The number of bytes at the front that belong to a character with the given first
byte. -/
def goodBytes (first : Nat) : List Nat → Nat
  | [] => 0
  | second :: rest =>
    if isSecond first second then 1 + (rest.takeWhile isContinuation).length else 0

/-- The bits that the first byte of a character holds. -/
def leadingBits (first tail : Nat) : Nat :=
  match tail with
  | 0 => first
  | 1 => first - 0xC0
  | 2 => first - 0xE0
  | _ => first - 0xF0

/-- The character that starts with a byte, and the number of bytes it takes behind it;
or the reason why there is none, and the number of bytes concerned. -/
def charAt (first : Nat) (rest : List Nat) : Except (Reason × Nat) (Char × Nat) :=
  match tailLength first with
  | none => throw (.invalidStart, 1)
  | some tail =>
    let bytes := rest.take tail
    let good := goodBytes first bytes
    if good < bytes.length then throw (.invalidContinuation, good + 1)
    else if bytes.length < tail then throw (.unexpectedEnd, bytes.length + 1)
    else
      let code := bytes.foldl (fun n b => n * 64 + (b - 0x80)) (leadingBits first tail)
      pure (Char.ofNat code, tail)

/-- The characters of the bytes left, of which an earlier character covers the first
ones. -/
def decodeFrom : (covered offset : Nat) → List Nat → Except DecodeError (List Char)
  | _, _, [] => pure []
  | covered + 1, offset, _ :: bytes => decodeFrom covered (offset + 1) bytes
  | 0, offset, byte :: bytes =>
    match charAt byte bytes with
    | .ok (c, tail) => do return c :: (← decodeFrom tail (offset + 1) bytes)
    | .error (reason, length) => throw { reason, offset, length, byte }

/-- The text that bytes hold. -/
def decode (bytes : List Nat) : Except DecodeError String :=
  String.ofList <$> decodeFrom 0 0 bytes

/-- The bytes of a text. -/
def encode (s : String) : List Nat :=
  s.toUTF8.toList.map UInt8.toNat

/-- The bytes of a raw text that holds no surrogate. -/
def encode? (text : RawText) : Option (List Nat) :=
  text.toString?.map encode

/-- The message of an error. -/
def DecodeError.message (error : DecodeError) : String :=
  let reason := match error.reason with
    | .invalidStart => "invalid start byte"
    | .invalidContinuation => "invalid continuation byte"
    | .unexpectedEnd => "unexpected end of data"
  let place :=
    if error.length = 1 then
      s!"byte 0x{String.ofList (hexDigits 2 error.byte)} in position {error.offset}"
    else s!"bytes in position {error.offset}-{error.offset + error.length - 1}"
  s!"'utf-8' codec can't decode {place}: {reason}"

end ResolverTypings.Text.Utf8
