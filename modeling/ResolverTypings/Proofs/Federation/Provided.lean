import ResolverTypings.Proofs.Federation.Collecting
import ResolverTypings.Proofs.Federation.FieldSets

/-!
# Provided fields

A field is provided if some declaration holds a directive whose field set reaches it. The
pass over all declarations notes the provided fields and, unless it stops at an error, all
of them. Fields noted by earlier passes, finished or not, are among them as long as
nothing that was declared is taken back.
-/
namespace ResolverTypings.Federation

open Graphql (Directive FieldDeclaration)

variable {objects later : Table String CollectedObject}

/-- What the field set of a directive on a declaration reaches. -/
def ProvidedBy (objects : Table String CollectedObject) (declaration : FieldDeclaration)
    (directives : List Directive) (target : String × String) : Prop :=
  ∃ directive ∈ directives, ∃ set, fieldSetOf directive = .ok set ∧
    Reaches objects declaration.type.name set target

/-- What is provided by some declaration among those given. -/
def ProvidedAmong (objects : Table String CollectedObject) (declarations : List FieldDeclaration)
    (target : String × String) : Prop :=
  ∃ declaration ∈ declarations,
    ProvidedBy objects declaration (directivesNamed declaration.directives "provides") target

/-- What is provided by some declaration that has been collected. -/
def IsProvided (objects : Table String CollectedObject) (target : String × String) : Prop :=
  ProvidedAmong objects (declarationsIn objects) target

/-! ## The pass over the declarations -/

theorem providedBy_of_mem {declaration : FieldDeclaration} {directives : List Directive}
    {target : String × String} (h : target ∈ (providedBy objects declaration directives).1) :
    ProvidedBy objects declaration directives target := by
  induction directives with
  | nil => simp [providedBy] at h
  | cons directive rest ih =>
    rw [providedBy] at h
    cases hset : fieldSetOf directive with
    | error error => simp [hset] at h
    | ok set =>
      rw [hset, mem_andThen_iff] at h
      rcases h with h | ⟨-, h⟩
      · exact ⟨directive, by simp, set, hset, reaches_of_mem_namedFields h⟩
      · obtain ⟨found, hfound, hrest⟩ := ih h
        exact ⟨found, by simp [hfound], hrest⟩

theorem mem_of_providedBy {declaration : FieldDeclaration} {directives : List Directive}
    {target : String × String} (hok : (providedBy objects declaration directives).2 = none)
    (h : ProvidedBy objects declaration directives target) :
    target ∈ (providedBy objects declaration directives).1 := by
  induction directives with
  | nil => obtain ⟨_, hmem, -⟩ := h; simp at hmem
  | cons directive rest ih =>
    rw [providedBy] at hok ⊢
    obtain ⟨found, hfound, set, hset, hreach⟩ := h
    cases hfirst : fieldSetOf directive with
    | error error => simp [hfirst] at hok
    | ok first =>
      rw [hfirst, andThen_eq_none_iff] at hok
      rw [mem_andThen_iff]
      rcases List.mem_cons.1 hfound with rfl | hfound
      · obtain rfl : first = set := Except.ok.inj (hfirst ▸ hset)
        exact .inl (mem_namedFields_of_reaches hok.1 hreach)
      · exact .inr ⟨hok.1, ih hok.2 ⟨found, hfound, set, hset, hreach⟩⟩

theorem CoveredBy.providedBy (covered : CoveredBy objects later)
    {declaration : FieldDeclaration} {directives : List Directive}
    (h : (providedBy objects declaration directives).2 = none) :
    (providedBy later declaration directives).2 = none := by
  induction directives with
  | nil => rfl
  | cons directive rest ih =>
    rw [Federation.providedBy] at h ⊢
    cases hset : fieldSetOf directive with
    | error error => simp [hset] at h
    | ok set =>
      rw [hset, andThen_eq_none_iff] at h
      exact andThen_eq_none_iff.2 ⟨covered.namedFields h.1, ih h.2⟩

/-- The pass ends without an error if it does so at each declaration. -/
theorem providedByAll_eq_none_iff {declarations : List FieldDeclaration} :
    (providedByAll objects declarations).2 = none ↔ ∀ declaration ∈ declarations,
      (providedBy objects declaration
        (directivesNamed declaration.directives "provides")).2 = none := by
  induction declarations with
  | nil => simp [providedByAll]
  | cons declaration rest ih => simp [providedByAll, andThen_eq_none_iff, ih]

/-- Only provided fields are noted, also before an error. -/
theorem providedAmong_of_mem {declarations : List FieldDeclaration} {target : String × String}
    (h : target ∈ (providedByAll objects declarations).1) :
    ProvidedAmong objects declarations target := by
  induction declarations with
  | nil => simp [providedByAll] at h
  | cons declaration rest ih =>
    rw [providedByAll, mem_andThen_iff] at h
    rcases h with h | ⟨-, h⟩
    · exact ⟨declaration, by simp, providedBy_of_mem h⟩
    · obtain ⟨found, hfound, hrest⟩ := ih h
      exact ⟨found, by simp [hfound], hrest⟩

/-- Without an error all provided fields are noted. -/
theorem mem_of_providedAmong {declarations : List FieldDeclaration} {target : String × String}
    (hok : (providedByAll objects declarations).2 = none)
    (h : ProvidedAmong objects declarations target) :
    target ∈ (providedByAll objects declarations).1 := by
  induction declarations with
  | nil => obtain ⟨_, hmem, -⟩ := h; simp at hmem
  | cons declaration rest ih =>
    rw [providedByAll, andThen_eq_none_iff] at hok
    rw [providedByAll, mem_andThen_iff]
    obtain ⟨found, hfound, hprovided⟩ := h
    rcases List.mem_cons.1 hfound with rfl | hfound
    · exact .inl (mem_of_providedBy hok.1 hprovided)
    · exact .inr ⟨hok.1, ih hok.2 ⟨found, hfound, hprovided⟩⟩

/-- What is provided stays so where more is declared. -/
theorem CoveredBy.isProvided (covered : CoveredBy objects later)
    (hsub : declarationsIn objects ⊆ declarationsIn later) {target : String × String}
    (h : IsProvided objects target) : IsProvided later target := by
  obtain ⟨declaration, hmem, directive, hdirective, set, hset, hreach⟩ := h
  exact ⟨declaration, hsub hmem, directive, hdirective, set, hset, covered.reaches hreach⟩

/-! ## What is noted -/

namespace Collected

/-- All fields noted so far are provided. -/
def NotedSoundly (collected : Collected) : Prop :=
  ∀ target ∈ collected.provided, IsProvided collected.objects target

/-- What has been collected, with the given fields noted. -/
def withProvided (collected : Collected) (provided : List (String × String)) : Collected :=
  { collected with provided }

theorem addAll_withProvided (collected : Collected) (noted : List (String × String))
    (definitions : List Graphql.Definition) :
    (collected.withProvided noted).addAll definitions =
      (collected.addAll definitions).withProvided noted := by
  rw [addAll_eq, addAll_eq]
  rfl

theorem fst_noteProvided (collected : Collected) :
    collected.noteProvided.1 = collected.withProvided
      ((providedByAll collected.objects (declarationsIn collected.objects)).1.foldl addNew
        collected.provided) := rfl

theorem snd_noteProvided (collected : Collected) :
    collected.noteProvided.2 =
      (providedByAll collected.objects (declarationsIn collected.objects)).2 := rfl

theorem snd_build (collected : Collected) : collected.build.2 = collected.noteProvided.1 := by
  cases h : collected.noteProvided with
  | mk noted error => cases error <;> simp [build, h]

/-- Noting keeps the noted fields sound, whether it ends with an error or not. -/
theorem NotedSoundly.noteProvided {collected : Collected} (h : collected.NotedSoundly) :
    collected.noteProvided.1.NotedSoundly := by
  intro target htarget
  rw [fst_noteProvided] at htarget
  rcases mem_foldl_addNew.1 htarget with hold | hnew
  · exact h target hold
  · exact providedAmong_of_mem hnew

/-- After a pass without an error exactly the provided fields are noted. -/
theorem mem_provided_iff {collected : Collected} (h : collected.NotedSoundly)
    (hok : collected.noteProvided.2 = none) {target : String × String} :
    target ∈ collected.noteProvided.1.provided ↔ IsProvided collected.objects target := by
  refine ⟨h.noteProvided target, fun hprovided => ?_⟩
  exact mem_foldl_addNew.2 (.inr (mem_of_providedAmong hok hprovided))

end Collected
end ResolverTypings.Federation
