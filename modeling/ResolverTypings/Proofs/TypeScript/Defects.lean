import ResolverTypings.Proofs.TypeScript.Declarations

/-!
# Schemas without a file

Two defects keep a schema from having a file: an entity without keys, and a resolver that can
be called but knows no parent. Objects are written in order, and an entity asks for its keys
before it writes its resolvers, so the error is about the defect that comes first in this order.
Nothing else in a schema or in the settings has a part in it.
-/
namespace ResolverTypings

/-! ## Defects -/

/-- A resolver that can be called and knows no parent. -/
def Resolver.IsOrphan (resolver : Resolver) : Prop :=
  resolver.parent = "" ∧ resolver.isUnresolvable = false

instance (resolver : Resolver) : Decidable resolver.IsOrphan :=
  inferInstanceAs (Decidable (resolver.parent = "" ∧ resolver.isUnresolvable = false))

namespace ObjectType

/-- An object that is an entity without keys, or has a resolver without parent. -/
def IsDefective (object : ObjectType) : Prop :=
  object.kind = .entity [] ∨ ∃ resolver ∈ object.resolvers, resolver.IsOrphan

instance (object : ObjectType) : Decidable object.IsDefective :=
  inferInstanceAs
    (Decidable (object.kind = .entity [] ∨ ∃ resolver ∈ object.resolvers, resolver.IsOrphan))

/-- The defect of an object that is met first: missing keys come before its resolvers. -/
inductive FirstDefect (object : ObjectType) : TypeScript.DeclarationError → Prop where
  | keys (hkind : object.kind = .entity []) : FirstDefect object (.entityWithoutKeys object.name)
  | parent {resolver : Resolver} (hkind : object.kind ≠ .entity [])
      (hfirst : IsFirst Resolver.IsOrphan object.resolvers resolver) :
      FirstDefect object (.resolverWithoutParent resolver.name)

end ObjectType

/-- The first defect of the first object that has any. -/
def Schema.FirstDefect (schema : Schema) (error : TypeScript.DeclarationError) : Prop :=
  ∃ object, IsFirst ObjectType.IsDefective schema.objects object ∧ object.FirstDefect error

namespace ObjectType

theorem exists_firstDefect_iff {object : ObjectType} :
    (∃ error, object.FirstDefect error) ↔ object.IsDefective := by
  by_cases hkind : object.kind = .entity []
  · exact iff_of_true ⟨_, .keys hkind⟩ (.inl hkind)
  · rw [IsDefective, ← exists_isFirst_iff]
    constructor
    · rintro ⟨error, hkeys | ⟨-, hfirst⟩⟩
      · exact .inl hkeys
      · exact .inr ⟨_, hfirst⟩
    · rintro (hkeys | ⟨resolver, hfirst⟩)
      · exact absurd hkeys hkind
      · exact ⟨_, .parent hkind hfirst⟩

end ObjectType

theorem Schema.exists_firstDefect_iff {schema : Schema} :
    (∃ error, schema.FirstDefect error) ↔ ∃ object ∈ schema.objects, object.IsDefective := by
  rw [← exists_isFirst_iff]
  constructor
  · rintro ⟨error, object, hfirst, -⟩
    exact ⟨object, hfirst⟩
  · rintro ⟨object, hfirst⟩
    obtain ⟨error, hdefect⟩ := ObjectType.exists_firstDefect_iff.2 hfirst.holds
    exact ⟨error, object, hfirst, hdefect⟩

/-! ## Descriptions -/

/-- A resolver without the texts that document it and its arguments. -/
def Resolver.undescribed (resolver : Resolver) : Resolver :=
  { resolver with
    description := none
    arguments := resolver.arguments.map fun argument => { argument with description := none } }

/-- An object without the texts that document it and its members. -/
def ObjectType.undescribed (object : ObjectType) : ObjectType :=
  { object with
    description := none
    fields := object.fields.map fun field => { field with description := none }
    resolvers := object.resolvers.map Resolver.undescribed }

theorem ObjectType.firstDefect_undescribed_iff {object : ObjectType}
    {error : TypeScript.DeclarationError} :
    object.undescribed.FirstDefect error ↔ object.FirstDefect error := by
  have hfirst : ∀ resolver, IsFirst Resolver.IsOrphan object.undescribed.resolvers resolver ↔
      ∃ described, IsFirst Resolver.IsOrphan object.resolvers described ∧
        described.undescribed = resolver :=
    fun _ => isFirst_map_iff
  constructor
  · rintro (hkind | ⟨hkind, hresolver⟩)
    · exact .keys hkind
    · obtain ⟨described, hdescribed, rfl⟩ := (hfirst _).1 hresolver
      change object.FirstDefect (.resolverWithoutParent described.name)
      exact .parent hkind hdescribed
  · rintro (hkind | ⟨hkind, hresolver⟩)
    · exact .keys hkind
    · next described =>
      change object.undescribed.FirstDefect (.resolverWithoutParent described.undescribed.name)
      exact .parent hkind ((hfirst _).2 ⟨described, hresolver, rfl⟩)

/-- What documents a schema has no part in its defects. -/
theorem Schema.firstDefect_congr {schema schema' : Schema}
    (hobjects : schema'.objects.map ObjectType.undescribed =
      schema.objects.map ObjectType.undescribed) {error : TypeScript.DeclarationError} :
    schema'.FirstDefect error ↔ schema.FirstDefect error := by
  have hundescribed : ∀ schema : Schema, schema.FirstDefect error ↔
      ∃ object, IsFirst ObjectType.IsDefective (schema.objects.map ObjectType.undescribed) object ∧
        object.FirstDefect error := by
    intro schema
    have hdefective : ∀ object : ObjectType,
        object.undescribed.IsDefective ↔ object.IsDefective := by
      intro object
      simp only [← ObjectType.exists_firstDefect_iff, ObjectType.firstDefect_undescribed_iff]
    simp only [Schema.FirstDefect, isFirst_map_iff, hdefective]
    constructor
    · rintro ⟨object, hfirst, hdefect⟩
      exact ⟨_, ⟨object, hfirst, rfl⟩, ObjectType.firstDefect_undescribed_iff.2 hdefect⟩
    · rintro ⟨_, ⟨object, hfirst, rfl⟩, hdefect⟩
      exact ⟨object, hfirst, ObjectType.firstDefect_undescribed_iff.1 hdefect⟩
  rw [hundescribed, hundescribed, hobjects]

namespace TypeScript

/-! ## Errors -/

variable {error : DeclarationError}

theorem resolverText_eq_error_iff {resolver : Resolver} :
    resolverText resolver = .error error ↔
      resolver.IsOrphan ∧ error = .resolverWithoutParent resolver.name := by
  rw [eq_comm (a := error)]
  unfold resolverText Resolver.IsOrphan
  cases resolver.isUnresolvable with
  | true => simp
  | false =>
    by_cases hparent : resolver.parent = ""
    · simp [hparent]
    · simp [hparent]

/-- The resolvers of an object fail as the first of them does that is without parent. -/
theorem mapM_resolverText_eq_error_iff {resolvers : List Resolver} :
    resolvers.mapM resolverText = .error error ↔
      ∃ resolver, IsFirst Resolver.IsOrphan resolvers resolver ∧
        error = .resolverWithoutParent resolver.name := by
  have horphan : ∀ resolver : Resolver,
      resolver.IsOrphan ↔ ∃ error, resolverText resolver = .error error := by
    intro resolver
    constructor
    · intro hresolver
      exact ⟨_, resolverText_eq_error_iff.2 ⟨hresolver, rfl⟩⟩
    · rintro ⟨_, herror⟩
      exact (resolverText_eq_error_iff.1 herror).1
  rw [mapM_eq_error_iff horphan]
  constructor
  · rintro ⟨resolver, hfirst, hresolver⟩
    exact ⟨resolver, hfirst, (resolverText_eq_error_iff.1 hresolver).2⟩
  · rintro ⟨resolver, hfirst, rfl⟩
    exact ⟨resolver, hfirst, resolverText_eq_error_iff.2 ⟨hfirst.holds, rfl⟩⟩

theorem objectText_eq_error_iff {object : ObjectType} :
    objectText object = .error error ↔ object.FirstDefect error := by
  by_cases hkeys : object.kind = .entity []
  · -- The resolvers are not looked at.
    have htext : objectText object = .error (.entityWithoutKeys object.name) := by
      simp [objectText, hkeys, entityText, throw_eq_error, bind, Except.bind]
    rw [htext]
    constructor
    · rintro ⟨⟩
      exact .keys hkeys
    · rintro (- | ⟨hkind, -⟩)
      · rfl
      · exact absurd hkeys hkind
  · have htext : objectText object = .error error ↔
        object.resolvers.mapM resolverText = .error error := by
      cases hkind : object.kind with
      | plain =>
        simp only [objectText, hkind, plainText, bind_eq_error_iff, pure_ne_error, and_false,
          exists_false, or_false]
      | entity keys =>
        cases keys with
        | nil => exact absurd hkind hkeys
        | cons key rest =>
          simp only [objectText, hkind, entityText, List.isEmpty_cons, Bool.false_eq_true,
            if_false, bind_eq_error_iff, pure_ne_error, and_false, exists_false, or_false]
    rw [htext, mapM_resolverText_eq_error_iff]
    constructor
    · rintro ⟨resolver, hfirst, rfl⟩
      exact .parent hkeys hfirst
    · rintro (hkind | ⟨-, hfirst⟩)
      · exact absurd hkind hkeys
      · exact ⟨_, hfirst, rfl⟩

/-- A schema has no file as the first of its objects has no text that is defective. -/
theorem generate_eq_error_iff {settings : Settings} {schema : Schema} :
    generate settings schema = .error error ↔ schema.FirstDefect error := by
  have hfragment : ∀ (object : ObjectType) (error : DeclarationError),
      Fragment.mk object.name <$> objectText object = .error error ↔ object.FirstDefect error := by
    intro object error
    rw [← objectText_eq_error_iff]
    exact map_eq_error_iff
  have hdefective : ∀ object : ObjectType, object.IsDefective ↔
      ∃ error, Fragment.mk object.name <$> objectText object = .error error := by
    intro object
    simp only [hfragment, ObjectType.exists_firstDefect_iff]
  have hdeclarations : generate settings schema = .error error ↔
      (schema.objects.mapM fun object => Fragment.mk object.name <$> objectText object) =
        .error error := by
    rw [generate]
    refine map_eq_error_iff.trans ?_
    simp only [outline, declarations, bind_eq_error_iff, pure_ne_error, and_false, exists_false,
      or_false]
  rw [hdeclarations, mapM_eq_error_iff hdefective, Schema.FirstDefect]
  simp only [hfragment]

/-- **Exactly when a schema has no file.** There is none if an entity has no keys or a resolver
that can be called knows no parent, and the error is about the first defect; else there is a
file. Neither the settings nor enums, scalars and descriptions count. -/
theorem generate_fails_iff_isDefective (settings : Settings) (schema : Schema) :
    ((∃ error, generate settings schema = .error error) ↔
        ∃ object ∈ schema.objects, object.kind = .entity [] ∨
          ∃ resolver ∈ object.resolvers, resolver.parent = "" ∧ resolver.isUnresolvable = false) ∧
      (∀ error, generate settings schema = .error error ↔ schema.FirstDefect error) ∧
      ((∃ text, generate settings schema = .ok text) ↔
        ¬ ∃ object ∈ schema.objects, object.IsDefective) ∧
      ∀ settings' schema', schema'.objects.map ObjectType.undescribed =
          schema.objects.map ObjectType.undescribed →
        ∀ error, generate settings' schema' = .error error ↔
          generate settings schema = .error error := by
  have hfails : (∃ error, generate settings schema = .error error) ↔
      ∃ object ∈ schema.objects, object.IsDefective := by
    simp only [generate_eq_error_iff, Schema.exists_firstDefect_iff]
  refine ⟨hfails, fun error => generate_eq_error_iff, ?_, ?_⟩
  · rw [← hfails]
    cases generate settings schema <;> simp
  · intro settings' schema' hobjects error
    rw [generate_eq_error_iff, generate_eq_error_iff, Schema.firstDefect_congr hobjects]

/-- A root whose only resolver cannot be called, an entity that has neither keys nor a parent
for its resolver, and an object with the same defect. -/
def keylessUser (description : Option String) (enums : List EnumType) : Schema where
  objects := [
    { name := "Query", isRootType := true,
      resolvers := [{ name := "me", type := .named "User", parent := "", isUnresolvable := true }] },
    { name := "User", kind := .entity [], description,
      resolvers := [{ name := "id", type := .named "ID", parent := "", description }] },
    { name := "Org", resolvers := [{ name := "name", type := .named "String", parent := "" }] }]
  enums

/-- The missing keys are the first defect, also beside other settings, descriptions and enums. -/
theorem generate_fails_keylessUser :
    (keylessUser (some "A user.") [{ name := "Kind" }]).objects.map ObjectType.undescribed =
        (keylessUser none []).objects.map ObjectType.undescribed ∧
      generate {} (keylessUser none []) = .error (.entityWithoutKeys "User") ∧
      generate { internalEnumValues := true } (keylessUser (some "A user.") [{ name := "Kind" }]) =
        .error (.entityWithoutKeys "User") := by
  have hfirst : (keylessUser none []).FirstDefect (.entityWithoutKeys "User") :=
    ⟨_, ⟨_, _, (List.singleton_append ..).symm, by decide, by decide⟩, .keys rfl⟩
  obtain ⟨-, herror, -, hsame⟩ := generate_fails_iff_isDefective {} (keylessUser none [])
  have hfails := (herror _).2 hfirst
  have hother := hsame { internalEnumValues := true }
    (keylessUser (some "A user.") [{ name := "Kind" }]) rfl
  exact ⟨rfl, hfails, (hother _).2 hfails⟩

end TypeScript
end ResolverTypings
