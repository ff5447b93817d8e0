import ResolverTypings.Text.RawText

/-!
# Control sequences

A terminal takes some texts as orders to change colours or to move about: the escape
character and a bracket, characters that give parameters, intermediate characters, and
one that ends the sequence. What is shown to a reader leaves them out.
-/
namespace ResolverTypings.Text

/-- A character that gives a parameter of a control sequence. -/
def isParameter (c : Char) : Bool := '0' ≤ c && c ≤ '?'

/-- A character that may stand between the parameters and the end. -/
def isIntermediate (c : Char) : Bool := ' ' ≤ c && c ≤ '/'

/-- A character that ends a control sequence. -/
def isFinal (c : Char) : Bool := '@' ≤ c && c ≤ '~'

/-- The length of the control sequence in front of a text, without the escape character
before it. -/
def sequenceLength? : RawText → Option Nat
  | .char '[' :: text =>
    let behind := (text.dropWhile (·.satisfies isParameter)).dropWhile (·.satisfies isIntermediate)
    match behind with
    | point :: rest =>
      if point.satisfies isFinal then some (text.length - rest.length + 1) else none
    | [] => none
  | _ => none

/-- What stands outside of control sequences, of which an earlier one covers the first
code points. -/
def plainFrom : (covered : Nat) → RawText → RawText
  | _, [] => []
  | covered + 1, _ :: rest => plainFrom covered rest
  | 0, point :: rest =>
    match if point = .char '\x1b' then sequenceLength? rest else none with
    | some length => plainFrom length rest
    | none => point :: plainFrom 0 rest

/-- A text without its control sequences. -/
def plain (text : RawText) : RawText :=
  plainFrom 0 text

/-- No control sequence begins in front of the first escape character. -/
theorem plain_append_of_no_escape {front : RawText} (h : .char '\x1b' ∉ front) (rest : RawText) :
    plain (front ++ rest) = front ++ plain rest := by
  unfold plain
  induction front with
  | nil => rfl
  | cons point front ih =>
    have hpoint : point ≠ .char '\x1b' := fun hp => h (hp ▸ List.mem_cons_self)
    simp [plainFrom, hpoint, ih fun hfront => h (List.mem_cons_of_mem point hfront)]

end ResolverTypings.Text
