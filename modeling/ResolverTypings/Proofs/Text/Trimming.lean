import Mathlib.Data.List.DropRight
import ResolverTypings.Text.Blank

/-!
# Trimmed texts

A text is trimmed from both ends up to what is not blank. The result has no blank at its ends,
and a text that has none there is left as it is. So trimming twice is trimming once, and blanks
put around a text do not count.
-/
namespace ResolverTypings.Text

/-- Text that neither starts nor ends with a blank. -/
@[mk_iff]
structure HasNoBlankEnds (cs : List Char) : Prop where
  first : cs.head?.any isBlank = false
  last : cs.getLast?.any isBlank = false

instance (cs : List Char) : Decidable (HasNoBlankEnds cs) :=
  decidable_of_iff _ (hasNoBlankEnds_iff cs).symm

/-! ## The end of a text -/

theorem trimRight_concat (cs : List Char) (c : Char) :
    trimRight (cs ++ [c]) = if isBlank c then trimRight cs else cs ++ [c] := by
  induction cs with
  | nil => by_cases hc : isBlank c <;> simp [trimRight, hc]
  | cons d cs ih =>
    by_cases hc : isBlank c
    · rw [if_pos hc] at ih
      simp [trimRight, ih, hc]
    · rw [if_neg hc] at ih
      simp only [List.cons_append, trimRight, ih, if_neg hc]
      split
      · next hnil => simp at hnil
      · rfl

theorem trimRight_eq_rdropWhile (cs : List Char) : trimRight cs = cs.rdropWhile isBlank := by
  induction cs using List.reverseRecOn with
  | nil => rfl
  | append_singleton cs c ih =>
    rw [trimRight_concat, ih]
    by_cases hc : isBlank c
    · rw [if_pos hc, List.rdropWhile_concat_pos _ _ _ hc]
    · rw [if_neg hc, List.rdropWhile_concat_neg _ _ _ hc]

theorem trimRight_isPrefix (cs : List Char) : trimRight cs <+: cs := by
  rw [trimRight_eq_rdropWhile]
  exact List.rdropWhile_prefix _ _

/-! ## Both ends -/

theorem mem_of_mem_trim {cs : List Char} {c : Char} (h : c ∈ trim cs) : c ∈ cs :=
  (List.dropWhile_sublist _).subset ((trimRight_isPrefix _).subset h)

theorem trim_cons_of_isBlank {c : Char} (hc : isBlank c = true) (cs : List Char) :
    trim (c :: cs) = trim cs := by
  simp [trim, hc]

theorem hasNoBlankEnds_trim (cs : List Char) : HasNoBlankEnds (trim cs) := by
  constructor
  · -- What is first when the end is cut off was first before.
    obtain ⟨rest, hrest⟩ := trimRight_isPrefix (cs.dropWhile isBlank)
    have hfirst := List.head?_dropWhile_not isBlank cs
    rw [← hrest, List.head?_append] at hfirst
    change (trimRight (cs.dropWhile isBlank)).head?.any isBlank = false
    cases hhead : (trimRight (cs.dropWhile isBlank)).head? with
    | none => rfl
    | some c => simpa [hhead] using hfirst
  · rw [trim, trimRight_eq_rdropWhile]
    by_cases hne : (cs.dropWhile isBlank).rdropWhile isBlank = []
    · simp [hne]
    · rw [List.getLast?_eq_some_getLast hne]
      simpa using List.rdropWhile_last_not isBlank _ hne

theorem trim_of_hasNoBlankEnds {cs : List Char} (h : HasNoBlankEnds cs) : trim cs = cs := by
  have hfront : cs.dropWhile isBlank = cs := by
    cases cs with
    | nil => rfl
    | cons c cs =>
      have hc : isBlank c = false := by simpa using h.first
      simp [hc]
  have hback : cs.rdropWhile isBlank = cs := by
    rw [List.rdropWhile_eq_self_iff]
    intro hne
    have hlast := h.last
    rw [List.getLast?_eq_some_getLast hne] at hlast
    simpa using hlast
  rw [trim, hfront, trimRight_eq_rdropWhile, hback]

/-- Nothing is left of blanks alone. -/
theorem trim_eq_nil_iff {cs : List Char} : trim cs = [] ↔ ∀ c ∈ cs, isBlank c = true := by
  rw [← List.dropWhile_eq_nil_iff]
  constructor
  · intro hnil
    cases hfront : cs.dropWhile isBlank with
    | nil => rfl
    | cons c rest =>
      have hfirst := List.head?_dropWhile_not isBlank cs
      have hall : ∀ d ∈ c :: rest, isBlank d = true := by
        rw [← List.rdropWhile_eq_nil_iff, ← trimRight_eq_rdropWhile, ← hfront]
        exact hnil
      simp [hfront, hall c] at hfirst
  · intro hnil
    simp [trim, hnil, trimRight]

theorem trim_ne_nil_iff {cs : List Char} : trim cs ≠ [] ↔ ∃ c ∈ cs, isBlank c = false := by
  simp [trim_eq_nil_iff]

end ResolverTypings.Text
