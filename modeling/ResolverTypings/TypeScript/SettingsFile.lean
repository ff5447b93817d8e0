import ResolverTypings.Json.Parser
import ResolverTypings.Json.Problem
import ResolverTypings.TypeScript.Declaration

/-!
# Settings from JSON

Settings are given as an object with at most one known member, which has a public name
and an internal one. Where both are given the public one counts and the other is as
unknown as any further member. A truth value may also be written as a number or word.
-/
namespace ResolverTypings.TypeScript

open Json (Problem ProblemKind)
open Text (RawText)

/-- The public name of the only setting. -/
def publicName : String := "__experimentalInternalEnumValueSupport"

/-- The internal name of the only setting. -/
def internalName : String := "experimental_internal_enum_value_support"

/-- What settings are called in messages. -/
def settingsModel : String := "TranslatorOptions"

/-- The words for yes. -/
def trueWords : List String := ["1", "true", "t", "yes", "y", "on"]

/-- The words for no. -/
def falseWords : List String := ["0", "false", "f", "no", "n", "off"]

/-- The least integer of 64 bits with a sign. -/
def leastWord : Int := -9223372036854775808

/-- The greatest integer of 64 bits with a sign. -/
def greatestWord : Int := 9223372036854775807

/-- The truth value that an integer stands for. One that takes more than 64 bits is not
looked at. -/
def readBit (n : Int) : Except ProblemKind Bool :=
  if n = 0 then return false
  else if n = 1 then return true
  else if leastWord ≤ n ∧ n ≤ greatestWord then throw .unreadableBool
  else throw .notBool

/-- The truth value that a text stands for: words are read in either case. -/
def readWord (text : RawText) : Except ProblemKind Bool :=
  match text.toChars? with
  | none => throw .notUnicode
  | some cs =>
    let word := String.ofList (cs.map Char.toLower)
    if trueWords.contains word then return true
    else if falseWords.contains word then return false
    else throw .unreadableBool

/-- The truth value that a value stands for. Numbers count as the integers that they are;
the least integer counts as too large unless it is written as one. -/
def readBool : Json → Except ProblemKind Bool
  | .bool b => return b
  | .int n => readBit n
  | .float x =>
    match x.integer? with
    | none => throw .notBool
    | some n => if n = leastWord then throw .notBool else readBit n
  | .str text => readWord text
  | .null | .arr _ | .obj _ => throw .notBool

namespace Settings

/-- The name under which the members of an object give the setting. -/
def givenName (members : List (String × Json)) : String :=
  if (Table.get? members publicName).isSome then publicName else internalName

/-- A member under its name, if that is a text. -/
def namedMember (member : RawText × Json) : Except Problem (String × Json) :=
  match member.1.toString? with
  | some name => return (name, member.2)
  | none => throw ⟨[], .notUnicode, .str member.1⟩

/-- The settings that members give, or all problems with them: first that with the known
member, then the unknown members in order. -/
def ofMembers (members : List (String × Json)) : Except (List Problem) Settings :=
  let name := givenName members
  let known : Except (List Problem) Bool :=
    match Table.get? members name with
    | none => .ok false
    | some given => (readBool given).mapError fun kind => [⟨[name], kind, given⟩]
  let extra := (members.filter (·.1 != name)).map fun (key, given) =>
    (⟨[key], .extraField, given⟩ : Problem)
  match known with
  | .ok internalEnumValues => if extra.isEmpty then .ok { internalEnumValues } else .error extra
  | .error problems => .error (problems ++ extra)

/-- The settings that a value gives, or the problems with it. A name that is no text hides
all others. -/
def ofJson (value : Json) : Except (List Problem) Settings :=
  match value with
  | .obj members =>
    match members.mapM namedMember with
    | .error problem => .error [problem]
    | .ok members => ofMembers members
  | _ => .error [⟨[], .notModel settingsModel, value⟩]

/-- What comes of changing the setting: settings stay as they have been read. -/
def change (_ : Settings) (value : Json) : Except (List Problem) Settings :=
  .error [⟨[internalName], .frozen, value⟩]

/-- Settings as messages show them. -/
def inline (settings : Settings) : String :=
  (Json.obj [(publicName, .bool settings.internalEnumValues)]).inline

end Settings

/-- Why a text gives no settings. -/
inductive SettingsError where
  | notJson (error : Json.ParseError) (text : String)
  | misshapen (problems : List Problem)
  deriving Repr, Inhabited

/-- The message of an error. -/
def SettingsError.message : SettingsError → String
  | .notJson error text => error.message text
  | .misshapen problems => Json.problemReport settingsModel problems

/-- The settings that a text gives. -/
def Settings.ofText (text : String) : Except SettingsError Settings :=
  match Json.parse text with
  | .error error => .error (.notJson error text)
  | .ok value => (Settings.ofJson value).mapError .misshapen

end ResolverTypings.TypeScript
