import ResolverTypings.Text.Ascii
import ResolverTypings.Text.Fields
import ResolverTypings.Url.Label.Basic
import ResolverTypings.Url.Punycode

/-!
# Host names in any script

A host name is a row of labels with dots between them, and perhaps a dot at the end. A
label with a character beyond ASCII is written in ASCII with a mark in front that shows
it, and a label that bears the mark must stand for such a one. Names are written in
ASCII by `asciiName?` and read back in their own script by `nativeName`.
-/
namespace ResolverTypings.Url

/-- What a label in ASCII starts with that stands for another one. -/
def labelMark : List Char := ['x', 'n', '-', '-']

/-- The most characters of a label in ASCII. -/
def maxLabelLength : Nat := 63

/-- The most characters of a host name, without a dot at the end. -/
def maxNameLength : Nat := 253

/-- One of the dots between labels. -/
def isDot (c : Char) : Bool :=
  c == '.' || c == '\u3002' || c == '\uFF0E' || c == '\uFF61'

/-! ## Labels -/

/-- The label that a label in ASCII stands for, which is itself if it bears no mark. -/
def nativeLabel (label : List Char) : Except LabelFault (List Char) := do
  let native ←
    if labelMark.isPrefixOf label then
      let code := label.drop labelMark.length
      if code.getLast?.all (· == '-') then throw .shape
      else
        match Punycode.decode? code with
        | some text => pure text
        | none => throw .shape
    else pure label
  checkLabel native
  return native

/-- A label in ASCII. -/
def asciiLabel? (label : List Char) : Option (List Char) :=
  let isPlain := Text.isAscii label
  let written := if isPlain then label else labelMark ++ Punycode.encode label
  let isValid := if isPlain then (nativeLabel label).isOk else (checkLabel label).isOk
  if isValid && written.length ≤ maxLabelLength then some written else none

/-! ## Names -/

/-- The labels of a name, and whether a dot stands at its end. -/
def labelsOf (name : List Char) : List (List Char) × Bool :=
  let labels := Text.fields isDot name
  if labels.getLast? = some [] then (labels.dropLast, true) else (labels, false)

/-- The name that labels make up, perhaps with a dot at its end. -/
def nameOf (labels : List (List Char)) (endsInDot : Bool) : List Char :=
  List.intercalate ['.'] labels ++ (if endsInDot then ['.'] else [])

/-- Whether a name is too long in any script. -/
def isNameTooLong (name : List Char) : Bool :=
  maxNameLength + 1 < name.length

/-- A host name in ASCII. -/
def asciiName? (name : List Char) : Option (List Char) := do
  let (labels, endsInDot) := labelsOf name
  let more := if endsInDot then 1 else 0
  if isNameTooLong name then none
  else
    let whole := nameOf (← labels.mapM asciiLabel?) endsInDot
    if whole.length ≤ maxNameLength + more then some whole else none

/-- The host name that a name in ASCII stands for. -/
def nativeName (name : List Char) : Except LabelFault (List Char) := do
  let (labels, endsInDot) := labelsOf name
  if isNameTooLong name then throw .shape
  return nameOf (← labels.mapM nativeLabel) endsInDot

end ResolverTypings.Url
