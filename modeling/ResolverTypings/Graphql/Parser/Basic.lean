import ResolverTypings.Graphql.SyntaxError

/-!
# Parsers of tokens

A parser works on the tokens that are left, of which the first is the current one. A
lexical fault counts only when its token becomes the current one or is looked at ahead
of time. A failure keeps the number of tokens left at the one it is about, from which
the offset is found at the end: what a parser does hangs on the tokens alone.

Loops are bounded by the number of tokens left, since each turn takes a token.
-/
namespace ResolverTypings.Graphql

/-- A fault with the number of tokens left at the one that it is about. -/
structure Failure where
  fault : SyntaxFault
  left : Nat
  deriving Repr, DecidableEq, Inhabited

/-- A parser of the tokens that are left. -/
abbrev Parser := StateT (List Token) (Except Failure)

/-! ## Single tokens -/

/-- The current token. -/
def current : Parser Token := do
  return (← get).headD .endOfInput

/-- Fail at the current token. -/
def failHere {α : Type} (fault : SyntaxFault) : Parser α := do
  throw ⟨fault, (← get).length⟩

/-- The current token cannot stand where it stands. -/
def unexpectedHere {α : Type} : Parser α := do
  failHere (.unexpected (← current))

/-- Go on to the given tokens, which must not start with a lexical fault. -/
def moveTo (rest : List Token) : Parser Unit :=
  match rest with
  | .invalid fault :: _ => throw ⟨.lexical fault, rest.length⟩
  | _ => set rest

/-- Go on to the next token; the end of the input stays. -/
def advance : Parser Unit := do
  match ← get with
  | _ :: next :: rest => moveTo (next :: rest)
  | _ => return ()

/-- The token after the current one. -/
def peekNext : Parser Token := do
  match ← get with
  | _ :: .invalid fault :: rest => throw ⟨.lexical fault, rest.length + 1⟩
  | _ :: next :: _ => return next
  | _ => return .endOfInput

/-- Take the current token if it is the given one. -/
def skip? (token : Token) : Parser Bool := do
  if (← current) = token then
    advance
    return true
  else return false

/-- Take the given punctuation mark. -/
def expectMark (mark : Punctuator) : Parser Unit := do
  if ← skip? (.punctuator mark) then return ()
  else failHere (.expected (.punctuator mark) (← current))

/-- Take the given word. -/
def expectKeyword (word : String) : Parser Unit := do
  if ← skip? (.name word) then return ()
  else failHere (.expected (.keyword word) (← current))

/-- Take a name. -/
def name : Parser String := do
  match ← current with
  | .name s =>
    advance
    return s
  | found => failHere (.expected .name found)

/-- Whether the current token is the given mark. -/
def atMark (mark : Punctuator) : Parser Bool := do
  return (← current) = .punctuator mark

/-! ## Repetition -/

/-- Items up to a closing token. -/
def itemsUntil {α : Type} (close : Token) (item : Parser α) : (bound : Nat) → Parser (List α)
  | 0 => unexpectedHere
  | bound + 1 => do
    if ← skip? close then return []
    else
      let first ← item
      return first :: (← itemsUntil close item bound)

/-- Any number of items up to a closing token. -/
def anyUntil {α : Type} (close : Token) (item : Parser α) : Parser (List α) := do
  itemsUntil close item (← get).length

/-- At least one item up to a closing token. -/
def manyUntil {α : Type} (close : Token) (item : Parser α) : Parser (List α) := do
  let first ← item
  return first :: (← anyUntil close item)

/-- At least one item in brackets. -/
def manyIn {α : Type} (opening closing : Punctuator) (item : Parser α) : Parser (List α) := do
  expectMark opening
  manyUntil (.punctuator closing) item

/-- At least one item in brackets, or no brackets. -/
def optionalIn {α : Type} (opening closing : Punctuator) (item : Parser α) :
    Parser (List α) := do
  if ← skip? (.punctuator opening) then manyUntil (.punctuator closing) item else return []

/-- Items with a mark between two of them. -/
def separatedItems {α : Type} (mark : Punctuator) (item : Parser α) :
    (bound : Nat) → Parser (List α)
  | 0 => unexpectedHere
  | bound + 1 => do
    let first ← item
    if ← skip? (.punctuator mark) then return first :: (← separatedItems mark item bound)
    else return [first]

/-- At least one item, with a mark between two of them and perhaps one in front. -/
def separatedBy {α : Type} (mark : Punctuator) (item : Parser α) : Parser (List α) := do
  let _ ← skip? (.punctuator mark)
  separatedItems mark item (← get).length

/-- Items for as long as the current token is the given mark. -/
def itemsWhile {α : Type} (mark : Punctuator) (item : Parser α) : (bound : Nat) → Parser (List α)
  | 0 => return []
  | bound + 1 => do
    if ← atMark mark then
      let first ← item
      return first :: (← itemsWhile mark item bound)
    else return []

end ResolverTypings.Graphql
