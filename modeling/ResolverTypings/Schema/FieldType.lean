import ResolverTypings.Table

/-!
# Field types

The type of a field, argument or record member. A type may be null unless a non-null
wrapper stands around it. A record is an inline type with named members; it lists what
identifies an entity or what a resolver reads beside its parent.
-/
namespace ResolverTypings

/-- The type of a field, argument or record member. -/
inductive FieldType where
  | named (name : String)
  | nonNull (base : FieldType)
  | list (base : FieldType)
  | record (members : List (String × FieldType))
  deriving Repr, Inhabited

/-- The members of a record type in order. -/
abbrev Record := List (String × FieldType)

namespace FieldType

mutual
/-- Equality of types is decided by comparing them part by part. -/
def decEq : (s t : FieldType) → Decidable (s = t)
  | .named a, .named b =>
    if h : a = b then isTrue (by rw [h]) else isFalse (by simp [h])
  | .nonNull s, .nonNull t =>
    match decEq s t with
    | isTrue h => isTrue (by rw [h])
    | isFalse h => isFalse (by simp [h])
  | .list s, .list t =>
    match decEq s t with
    | isTrue h => isTrue (by rw [h])
    | isFalse h => isFalse (by simp [h])
  | .record s, .record t =>
    match decEqMembers s t with
    | isTrue h => isTrue (by rw [h])
    | isFalse h => isFalse (by simp [h])
  | .named _, .nonNull _ | .named _, .list _ | .named _, .record _
  | .nonNull _, .named _ | .nonNull _, .list _ | .nonNull _, .record _
  | .list _, .named _ | .list _, .nonNull _ | .list _, .record _
  | .record _, .named _ | .record _, .nonNull _ | .record _, .list _ => isFalse (by simp)

/-- Equality of the members of records is decided member by member. -/
def decEqMembers : (s t : List (String × FieldType)) → Decidable (s = t)
  | [], [] => isTrue rfl
  | [], _ :: _ => isFalse (by simp)
  | _ :: _, [] => isFalse (by simp)
  | (a, s) :: restA, (b, t) :: restB =>
    if h : a = b then
      match decEq s t, decEqMembers restA restB with
      | isTrue hs, isTrue hr => isTrue (by rw [h, hs, hr])
      | isFalse hs, _ => isFalse (by simp [hs])
      | _, isFalse hr => isFalse (by simp [hr])
    else isFalse (by simp [h])
end

instance : DecidableEq FieldType := decEq

/-- Whether a type is non-null. -/
def isNonNull : FieldType → Bool
  | .nonNull _ => true
  | _ => false

end FieldType

namespace Record

/-- The names of the members. -/
def names (r : Record) : List String :=
  r.map (·.1)

/-- The record that results from putting members into a table in order. -/
def ofMembers (members : List (String × FieldType)) : Record :=
  Table.ofList members

end Record
end ResolverTypings
