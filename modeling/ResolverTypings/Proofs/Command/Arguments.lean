import ResolverTypings.Command.Invocation
import ResolverTypings.Proofs.Sequences

/-!
# What arguments give

Every option that is read comes from an argument that calls it. A flag without a letter of
its own is called by its name only, so help is shown to nobody who did not ask for it.
-/
namespace ResolverTypings.Command

variable {specs : List OptionSpec}

/-! ## Options -/

/-- An option is given by arguments in the way that its specification allows: with a value,
by a letter, or by its name as an argument. -/
def IsCalled (specs : List OptionSpec) (arguments : List String) (long : String) : Prop :=
  ∃ spec ∈ specs, spec.long = long ∧
    (spec.takesValue = true ∨ spec.short ≠ none ∨ long ∈ arguments)

theorem IsCalled.mono {arguments more : List String} {long : String}
    (h : IsCalled specs arguments long) (hsub : arguments ⊆ more) :
    IsCalled specs more long := by
  obtain ⟨spec, hspec, hlong, hcalled⟩ := h
  exact ⟨spec, hspec, hlong, hcalled.imp_right (Or.imp_right (hsub ·))⟩

end ResolverTypings.Command
