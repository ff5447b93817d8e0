import ResolverTypings.Text.Digit
import ResolverTypings.Text.Fields

/-!
# Addresses

Hosts that are given by their number: four numbers with dots between them, or eight
groups of hexadecimal digits with colons between them, of which one run of zeros may be
left out.
-/
namespace ResolverTypings.Url

/-! ## Four numbers -/

/-- Whether a text is one of the four numbers: below 256 and without leading zeros. -/
def isOctet (cs : List Char) : Bool :=
  !cs.isEmpty && cs.length ≤ 3 && cs.all Text.isDigit && Text.digitsValue cs < 256 &&
    (cs.length = 1 || cs.head? ≠ some '0')

/-- Whether a text is an address of four numbers. -/
def isAddress4 (cs : List Char) : Bool :=
  let octets := Text.fields (· == '.') cs
  octets.length = 4 && octets.all isOctet

/-- Whether a text looks like such an address: it is four numbers of any size. -/
def looksLikeAddress4 (cs : List Char) : Bool :=
  let numbers := Text.fields (· == '.') cs
  numbers.length = 4 && numbers.all fun number => !number.isEmpty && number.all Text.isDigit

/-! ## Eight groups -/

/-- Whether a text is a group of hexadecimal digits. -/
def isGroup (cs : List Char) : Bool :=
  !cs.isEmpty && cs.length ≤ 4 && cs.all fun c => (Text.hexDigit? c).isSome

/-- The number of groups that texts stand for. The last one may be an address of four
numbers where the whole address ends with it. -/
def countGroups? (isEnd : Bool) : List (List Char) → Option Nat
  | [] => some 0
  | group :: rest =>
    if isGroup group then (countGroups? isEnd rest).map (· + 1)
    else if isEnd && rest.isEmpty && isAddress4 group then some 2
    else none

/-- The groups between the colons of a text; an empty text has none. -/
def groupsOf (cs : List Char) : List (List Char) :=
  if cs.isEmpty then [] else Text.fields (· == ':') cs

/-- A text cut at its first pair of colons. -/
def splitAtGap? : List Char → Option (List Char × List Char)
  | ':' :: ':' :: cs => some ([], cs)
  | c :: cs => (splitAtGap? cs).map fun (before, behind) => (c :: before, behind)
  | [] => none

/-- Whether a text is eight groups, of which a pair of colons stands for one at least. -/
def isGroups (cs : List Char) : Bool :=
  match splitAtGap? cs with
  | none => countGroups? true (groupsOf cs) = some 8
  | some (before, behind) =>
    match countGroups? false (groupsOf before), countGroups? true (groupsOf behind) with
    | some m, some n => m + n ≤ 7
    | _, _ => false

/-- Whether a text is an address of eight groups. A percent sign and the name of a network
may follow them. -/
def isAddress6 (cs : List Char) : Bool :=
  let groups := cs.takeWhile (· ≠ '%')
  let network := cs.dropWhile (· ≠ '%')
  isGroups groups && (network.isEmpty || (2 ≤ network.length && network.count '%' = 1))

end ResolverTypings.Url
