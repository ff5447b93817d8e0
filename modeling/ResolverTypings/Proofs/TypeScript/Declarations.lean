import ResolverTypings.Proofs.Sequences
import ResolverTypings.Proofs.Text.RawTexts
import ResolverTypings.TypeScript.Outline

/-!
# When declarations have a text

An entity has a text if it has keys, and a resolver if it knows its parent or cannot be
called; nothing else can fail. The text of an object is put together from the alias of what
its resolvers receive, its public shape, and the interface of its resolvers. Where the names of
objects are distinct, both the entry of an object and its declarations are found in a file by
its name.
-/
namespace ResolverTypings

/-- A resolver that knows its parent, unless it cannot be called at all. -/
def Resolver.HasText (resolver : Resolver) : Prop :=
  resolver.isUnresolvable = false → resolver.parent ≠ ""

/-- An object that has a key if it is an entity, and resolvers that have a text. -/
structure ObjectType.HasText (object : ObjectType) : Prop where
  kind : object.kind ≠ .entity []
  resolvers : ∀ resolver ∈ object.resolvers, resolver.HasText

instance (resolver : Resolver) : Decidable resolver.HasText :=
  inferInstanceAs (Decidable (resolver.isUnresolvable = false → resolver.parent ≠ ""))

instance (object : ObjectType) : Decidable object.HasText :=
  decidable_of_iff (object.kind ≠ .entity [] ∧ ∀ resolver ∈ object.resolvers, resolver.HasText)
    ⟨fun h => ⟨h.1, h.2⟩, fun h => ⟨h.kind, h.resolvers⟩⟩

namespace TypeScript

open Text (RawText)

/-! ## Resolvers -/

/-- The mark behind the name of a member, which tells whether it is required. -/
def memberMark (required : Bool) : String :=
  if required then ": " else "?: "

/-- The type of a resolver that can be called. -/
def signatureText (resolver : Resolver) : RawText :=
  "(parent: " ++ parentText resolver ++ ", args: " ++ argumentsText resolver.arguments ++
    ", context: TContext, info: any) => PromiseOrValue<" ++ typeText true resolver.type ++ ">"

/-- The text of a resolver, if it has one. -/
def resolverMember (resolver : Resolver) : RawText :=
  if resolver.isUnresolvable then resolver.name ++ unresolvableText
  else comment resolver.description ++ resolver.name ++ memberMark resolver.isRootType ++
    signatureText resolver

theorem resolverText_eq_ok_iff {resolver : Resolver} {text : RawText} :
    resolverText resolver = .ok text ↔ resolver.HasText ∧ text = resolverMember resolver := by
  rw [eq_comm (a := text)]
  unfold resolverText resolverMember Resolver.HasText
  cases resolver.isUnresolvable with
  | true => simp
  | false =>
    by_cases hparent : resolver.parent = ""
    · simp [hparent]
    · simp [hparent, signatureText, memberMark, List.append_assoc]

/-- What stands before the mark of a resolver. -/
def memberHead (resolver : Resolver) : RawText :=
  if resolver.isUnresolvable then resolver.name
  else comment resolver.description ++ resolver.name

/-- A resolver of a root is required, also where it cannot be called. -/
theorem exists_resolverMember_eq {resolver : Resolver} (hroot : resolver.isRootType = true) :
    ∃ type : RawText, resolverMember resolver = memberHead resolver ++ memberMark true ++ type := by
  unfold resolverMember memberHead
  cases resolver.isUnresolvable with
  | true =>
    have hmark : ∃ type, unresolvableText = memberMark true ++ type :=
      ⟨"never // non-resolvable: marked @external and not @provide'd by any fields", rfl⟩
    obtain ⟨type, hmark⟩ := hmark
    exact ⟨type, by simp [hmark]⟩
  | false => exact ⟨signatureText resolver, by simp [hroot]⟩

/-! ## Objects -/

/-- The alias of what the resolvers of an object receive. -/
def aliasText (object : ObjectType) : RawText :=
  match object.kind with
  | .plain => representationText object.name ++ "any>\n"
  | .entity keys => representationText object.name ++ "\x7b\x7d> & (" ++
      String.intercalate " | " (keys.map recordText) ++ ")\n\n"

/-- The public shape of an object. -/
def shapeText (object : ObjectType) : RawText :=
  match object.kind with
  | .plain => plainShape object
  | .entity _ => entityShape object

/-- Whether the public shape of an object is declared. -/
def declaresShape (object : ObjectType) : Bool :=
  object.isEntity || !object.isRoot

/-- The members of the interface of an object's resolvers. -/
def interfaceMembers (object : ObjectType) : List RawText :=
  match object.kind with
  | .plain => object.resolvers.map resolverMember
  | .entity _ => referenceMember object.name :: object.resolvers.map resolverMember

/-- The declarations of an object, if they have a text. -/
def objectDeclarations (object : ObjectType) : RawText :=
  aliasText object ++ (if declaresShape object then shapeText object else []) ++
    resolverInterface object (interfaceMembers object)

theorem shapeText_ne_empty (object : ObjectType) : shapeText object ≠ [] := by
  unfold shapeText
  cases object.kind <;> simp [plainShape, entityShape]

theorem mapM_resolverText_eq_ok_iff {resolvers : List Resolver} {members : List RawText} :
    resolvers.mapM resolverText = .ok members ↔
      (∀ resolver ∈ resolvers, resolver.HasText) ∧ members = resolvers.map resolverMember :=
  mapM_eq_ok_iff_of_total fun _ _ => resolverText_eq_ok_iff

theorem objectText_eq_ok_iff {object : ObjectType} {text : RawText} :
    objectText object = .ok text ↔ object.HasText ∧ text = objectDeclarations object := by
  have htext : object.HasText ↔ object.kind ≠ .entity [] ∧
      ∀ resolver ∈ object.resolvers, resolver.HasText :=
    ⟨fun h => ⟨h.kind, h.resolvers⟩, fun h => ⟨h.1, h.2⟩⟩
  rw [htext, objectText, objectDeclarations, aliasText, shapeText, declaresShape,
    interfaceMembers, ObjectType.isEntity]
  cases object.kind with
  | plain =>
    simp only [plainText, bind_eq_ok_iff, pure_eq_ok_iff, mapM_resolverText_eq_ok_iff]
    cases object.isRoot <;> simp
  | entity keys =>
    cases keys with
    | nil => simp [entityText, bind, Except.bind]
    | cons key rest =>
      simp only [entityText, List.isEmpty_cons, Bool.false_eq_true, if_false, bind_eq_ok_iff,
        pure_eq_ok_iff, mapM_resolverText_eq_ok_iff]
      simp

/-! ## Files -/

/-- The fragment that declares an object. -/
def objectFragment (object : ObjectType) : Fragment :=
  ⟨object.name, objectDeclarations object⟩

/-- The outline of the file for a schema whose objects have a text. -/
def layout (settings : Settings) (schema : Schema) : Outline where
  entries := entries settings schema
  declarations := schema.objects.map objectFragment ++
    (schema.enums.map fun enum => ⟨enum.name, enumText settings enum⟩) ++
    schema.scalars.map fun scalar => ⟨scalar.name, scalarText scalar⟩

/-- A schema has a file if all of its objects have a text. -/
theorem outline_eq_ok_iff {settings : Settings} {schema : Schema} {file : Outline} :
    outline settings schema = .ok file ↔
      (∀ object ∈ schema.objects, object.HasText) ∧ file = layout settings schema := by
  have hfragment : ∀ object fragment,
      Fragment.mk object.name <$> objectText object = .ok fragment ↔
        object.HasText ∧ fragment = objectFragment object :=
    fun object _ => map_eq_ok_iff_of_total fun _ => objectText_eq_ok_iff
  simp only [outline, declarations, bind_eq_ok_iff, pure_eq_ok_iff,
    mapM_eq_ok_iff_of_total hfragment]
  constructor
  · rintro ⟨_, ⟨_, ⟨hobjects, rfl⟩, rfl⟩, rfl⟩
    exact ⟨hobjects, rfl⟩
  · rintro ⟨hobjects, rfl⟩
    exact ⟨_, ⟨_, ⟨hobjects, rfl⟩, rfl⟩, rfl⟩

theorem generate_eq_ok_iff {settings : Settings} {schema : Schema} {text : RawText} :
    generate settings schema = .ok text ↔
      (∀ object ∈ schema.objects, object.HasText) ∧ text = (layout settings schema).text :=
  map_eq_ok_iff_of_total fun _ => outline_eq_ok_iff

/-! ## What a file says about an object -/

/-- The first entry for a name in the interface of all resolvers. -/
def Outline.entryOf? (file : Outline) (name : String) : Option RawText :=
  (file.entries.find? (·.owner == name)).map (·.text)

/-- The first declarations for a name. -/
def Outline.declarationsOf? (file : Outline) (name : String) : Option RawText :=
  (file.declarations.find? (·.owner == name)).map (·.text)

/-- The entry of an object, which may be required. -/
def entryLine (required : Bool) (name : String) : RawText :=
  "  " ++ name ++ memberMark required ++ name ++ "Resolver<TContext, TInternalReps>"

theorem entryLine_inj (name : String) {required required' : Bool} :
    entryLine required name = entryLine required' name ↔ required = required' := by
  cases required <;> cases required' <;> simp [entryLine, memberMark]

section Distinct

variable {schema : Schema} (hdistinct : (schema.objects.map (·.name)).Nodup)
  {object : ObjectType} (hobject : object ∈ schema.objects)

include hdistinct hobject

/-- The fragment of an object comes first among those of its name. -/
theorem find?_fragment (fragment : ObjectType → Fragment)
    (howner : ∀ object, (fragment object).owner = object.name) (more : List Fragment) :
    (schema.objects.map fragment ++ more).find? (·.owner == object.name) =
      some (fragment object) := by
  have hfound : schema.objects.find? (·.name == object.name) = some object :=
    find?_eq_some_of_nodup hdistinct hobject
  have howners : (fun found : Fragment => found.owner == object.name) ∘ fragment =
      (·.name == object.name) := by
    funext other
    simp [howner]
  rw [List.find?_append, List.find?_map, howners, hfound]
  rfl

theorem contains_rootNames : schema.rootNames.contains object.name = object.isRoot := by
  rw [Bool.eq_iff_iff, List.contains_iff_mem]
  simp only [Schema.rootNames, List.mem_map, List.mem_filter]
  constructor
  · rintro ⟨other, ⟨hother, hroot⟩, hname⟩
    rwa [← List.inj_on_of_nodup_map hdistinct hother hobject hname]
  · intro hroot
    exact ⟨object, ⟨hobject, hroot⟩, rfl⟩

theorem entryOf?_layout (settings : Settings) :
    (layout settings schema).entryOf? object.name = some (entryLine object.isRoot object.name) := by
  have hentry : (objectEntry schema.rootNames object).text =
      entryLine object.isRoot object.name := by
    simp only [objectEntry, contains_rootNames hdistinct hobject]
    rfl
  simp only [layout, Outline.entryOf?, entries, List.append_assoc,
    find?_fragment hdistinct hobject (objectEntry schema.rootNames) fun _ => rfl]
  exact congrArg some hentry

theorem declarationsOf?_layout (settings : Settings) :
    (layout settings schema).declarationsOf? object.name = some (objectDeclarations object) := by
  simp only [layout, Outline.declarationsOf?, List.append_assoc,
    find?_fragment hdistinct hobject objectFragment fun _ => rfl]
  rfl

end Distinct

end TypeScript
end ResolverTypings
