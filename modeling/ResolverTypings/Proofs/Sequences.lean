import Mathlib.Data.List.Nodup
import Mathlib.Data.List.Perm.Basic

/-!
# Comparing lists

Two ways in which one list stands for another, element by element: it may go on behind
the counterparts of the other's elements, or hold them in another order. A relation says
what an element has in common with its counterpart. Both comparisons pass through a
traversal that may fail, which is how they get from what was collected to what is built.
A traversal fails at the first element that has no result.
-/
namespace ResolverTypings

variable {α β γ δ ε : Type}

/-! ## First elements -/

/-- An element is the first one of a list that has a property. -/
def IsFirst (P : α → Prop) (xs : List α) (x : α) : Prop :=
  ∃ before after, xs = before ++ x :: after ∧ P x ∧ ∀ y ∈ before, ¬ P y

theorem not_isFirst_nil {P : α → Prop} {x : α} : ¬ IsFirst P [] x := by
  rintro ⟨before, after, hsplit, -⟩
  simp at hsplit

theorem isFirst_cons_iff {P : α → Prop} {x y : α} {ys : List α} :
    IsFirst P (y :: ys) x ↔ P y ∧ x = y ∨ ¬ P y ∧ IsFirst P ys x := by
  constructor
  · rintro ⟨before, after, hsplit, hx, hbefore⟩
    cases before with
    | nil =>
      obtain ⟨rfl, rfl⟩ : y = x ∧ ys = after := by simpa using hsplit
      exact .inl ⟨hx, rfl⟩
    | cons z before =>
      obtain ⟨rfl, rfl⟩ : y = z ∧ ys = before ++ x :: after := by simpa using hsplit
      rw [List.forall_mem_cons] at hbefore
      exact .inr ⟨hbefore.1, before, after, rfl, hx, hbefore.2⟩
  · rintro (⟨hy, rfl⟩ | ⟨hy, before, after, rfl, hx, hbefore⟩)
    · exact ⟨[], ys, rfl, hy, by simp⟩
    · exact ⟨y :: before, after, rfl, hx, List.forall_mem_cons.2 ⟨hy, hbefore⟩⟩

theorem IsFirst.holds {P : α → Prop} {xs : List α} {x : α} (h : IsFirst P xs x) : P x := by
  obtain ⟨before, after, -, hx, -⟩ := h
  exact hx

theorem isFirst_map_iff {P : β → Prop} {f : α → β} {xs : List α} {y : β} :
    IsFirst P (xs.map f) y ↔ ∃ x, IsFirst (fun x => P (f x)) xs x ∧ f x = y := by
  induction xs with
  | nil => simp [not_isFirst_nil]
  | cons x xs ih =>
    by_cases hx : P (f x)
    · simp [isFirst_cons_iff, hx, eq_comm]
    · simp [isFirst_cons_iff, hx, ih]

/-- A property that some element has, one has first. -/
theorem exists_isFirst_iff {P : α → Prop} {xs : List α} :
    (∃ x, IsFirst P xs x) ↔ ∃ x ∈ xs, P x := by
  induction xs with
  | nil => simp [not_isFirst_nil]
  | cons y ys ih =>
    by_cases hy : P y
    · simp [isFirst_cons_iff, hy]
    · simp [isFirst_cons_iff, hy, ih]

/-! ## Traversals that may fail -/

theorem bind_eq_ok_iff {x : Except ε α} {f : α → Except ε β} {b : β} :
    (x >>= f) = .ok b ↔ ∃ a, x = .ok a ∧ f a = .ok b := by
  cases x <;> simp [bind, Except.bind]

theorem bind_eq_error_iff {x : Except ε α} {f : α → Except ε β} {e : ε} :
    (x >>= f) = .error e ↔ x = .error e ∨ ∃ a, x = .ok a ∧ f a = .error e := by
  cases x <;> simp [bind, Except.bind]

theorem pure_eq_ok_iff {a b : α} : (pure a : Except ε α) = .ok b ↔ b = a := by
  simp [pure, Except.pure, eq_comm]

theorem throw_eq_error (e : ε) : (throw e : Except ε α) = .error e := rfl

theorem pure_ne_error (a : α) (e : ε) : (pure a : Except ε α) ≠ .error e := by
  simp [pure, Except.pure]

theorem toOption_eq_some_iff {x : Except ε α} {a : α} : x.toOption = some a ↔ x = .ok a := by
  cases x <;> simp [Except.toOption]

theorem map_eq_ok_iff {x : Except ε α} {f : α → β} {b : β} :
    x.map f = .ok b ↔ ∃ a, x = .ok a ∧ f a = b := by
  cases x <;> simp [Except.map]

theorem mapError_eq_ok_iff {ε' : Type} {x : Except ε α} {f : ε → ε'} {a : α} :
    x.mapError f = .ok a ↔ x = .ok a := by
  cases x <;> simp [Except.mapError]

theorem mapError_eq_error_iff {ε' : Type} {x : Except ε α} {f : ε → ε'} {e : ε'} :
    x.mapError f = .error e ↔ ∃ error, x = .error error ∧ f error = e := by
  cases x <;> simp [Except.mapError]

theorem map_eq_error_iff {x : Except ε α} {f : α → β} {e : ε} :
    x.map f = .error e ↔ x = .error e := by
  cases x <;> simp [Except.map]

/-- A map of something that succeeds just under a condition, and then in one way. -/
theorem map_eq_ok_iff_of_total {x : Except ε α} {P : Prop} {a : α}
    (h : ∀ y, x = .ok y ↔ P ∧ y = a) {f : α → β} {b : β} : x.map f = .ok b ↔ P ∧ b = f a := by
  simp only [map_eq_ok_iff, h]
  constructor
  · rintro ⟨_, ⟨hP, rfl⟩, rfl⟩
    exact ⟨hP, rfl⟩
  · rintro ⟨hP, rfl⟩
    exact ⟨a, ⟨hP, rfl⟩, rfl⟩

/-- A traversal succeeds when it does so on every element, and gives the results in order. -/
theorem mapM_eq_ok_iff {f : α → Except ε β} {xs : List α} {ys : List β} :
    xs.mapM f = .ok ys ↔ List.Forall₂ (fun x y => f x = .ok y) xs ys := by
  induction xs generalizing ys with
  | nil => simp [pure_eq_ok_iff]
  | cons x xs ih =>
    simp only [List.mapM_cons, bind_eq_ok_iff, pure_eq_ok_iff, List.forall₂_cons_left_iff, ih]
    constructor
    · rintro ⟨y, hy, rest, hrest, rfl⟩
      exact ⟨y, rest, hy, hrest, rfl⟩
    · rintro ⟨y, rest, hy, hrest, rfl⟩
      exact ⟨y, hy, rest, hrest, rfl⟩

/-- A traversal by a function that succeeds just where a condition holds. -/
theorem mapM_eq_ok_iff_of_total {f : α → Except ε β} {P : α → Prop} {g : α → β}
    (h : ∀ x y, f x = .ok y ↔ P x ∧ y = g x) {xs : List α} {ys : List β} :
    xs.mapM f = .ok ys ↔ (∀ x ∈ xs, P x) ∧ ys = xs.map g := by
  induction xs generalizing ys with
  | nil => simp [pure_eq_ok_iff]
  | cons x xs ih =>
    simp only [List.mapM_cons, bind_eq_ok_iff, pure_eq_ok_iff, h, ih, List.forall_mem_cons,
      List.map_cons]
    constructor
    · rintro ⟨y, ⟨hx, rfl⟩, rest, ⟨hxs, rfl⟩, rfl⟩
      exact ⟨⟨hx, hxs⟩, rfl⟩
    · rintro ⟨⟨hx, hxs⟩, rfl⟩
      exact ⟨g x, ⟨hx, rfl⟩, xs.map g, ⟨hxs, rfl⟩, rfl⟩

/-- A traversal fails as the first element does on which it fails. -/
theorem mapM_eq_error_iff {f : α → Except ε β} {P : α → Prop}
    (hP : ∀ x, P x ↔ ∃ e, f x = .error e) {xs : List α} {e : ε} :
    xs.mapM f = .error e ↔ ∃ x, IsFirst P xs x ∧ f x = .error e := by
  induction xs with
  | nil => simp [not_isFirst_nil, pure_ne_error]
  | cons y ys ih =>
    cases hy : f y with
    | error e' =>
      have hfails : P y := (hP y).2 ⟨e', hy⟩
      simp [isFirst_cons_iff, hfails, List.mapM_cons, hy, bind, Except.bind]
    | ok b =>
      have hpasses : ¬ P y := by
        intro hfails
        obtain ⟨e', he'⟩ := (hP y).1 hfails
        rw [hy] at he'
        cases he'
      simp only [List.mapM_cons, hy, bind_eq_error_iff, isFirst_cons_iff, hpasses]
      simp [pure_ne_error, ih]

theorem exists_mem_of_forall₂ {R : α → β → Prop} {xs : List α} {ys : List β}
    (h : List.Forall₂ R xs ys) {y : β} (hy : y ∈ ys) : ∃ x ∈ xs, R x y := by
  induction h with
  | nil => simp at hy
  | @cons a b _ _ hab _ ih =>
    rcases List.mem_cons.1 hy with rfl | hy
    · exact ⟨a, by simp, hab⟩
    · obtain ⟨x, hx, hxy⟩ := ih hy
      exact ⟨x, by simp [hx], hxy⟩

theorem map_eq_map_of_forall₂ {R : α → β → Prop} {f : α → γ} {g : β → γ}
    (himp : ∀ x y, R x y → f x = g y) {xs : List α} {ys : List β} (h : List.Forall₂ R xs ys) :
    xs.map f = ys.map g := by
  induction h with
  | nil => rfl
  | cons hxy _ ih => simp [himp _ _ hxy, ih]

/-- Counterparts of the elements of a list make up a list. -/
theorem exists_forall₂ {R : α → β → Prop} {xs : List α} (h : ∀ x ∈ xs, ∃ y, R x y) :
    ∃ ys, List.Forall₂ R xs ys := by
  induction xs with
  | nil => exact ⟨[], .nil⟩
  | cons x xs ih =>
    obtain ⟨y, hy⟩ := h x (by simp)
    obtain ⟨ys, hys⟩ := ih fun z hz => h z (by simp [hz])
    exact ⟨y :: ys, .cons hy hys⟩

/-- Two lists of counterparts of one list have common counterparts if any two of its
elements' counterparts have. -/
theorem forall₂_complete {P : α → β → Prop} {R : α → γ → Prop} {S : β → δ → Prop}
    {Q : γ → δ → Prop} (step : ∀ x y z, P x y → R x z → ∃ d, S y d ∧ Q z d)
    {xs : List α} {ys : List β} {zs : List γ} (hy : List.Forall₂ P xs ys)
    (hz : List.Forall₂ R xs zs) :
    ∃ ds, List.Forall₂ S ys ds ∧ List.Forall₂ Q zs ds := by
  induction hy generalizing zs with
  | nil =>
    cases hz
    exact ⟨[], .nil, .nil⟩
  | cons hxy _ ih =>
    cases hz with
    | cons hxz hzs =>
      obtain ⟨d, hyd, hzd⟩ := step _ _ _ hxy hxz
      obtain ⟨ds, hys, hzs⟩ := ih hzs
      exact ⟨d :: ds, .cons hyd hys, .cons hzd hzs⟩

/-- The counterpart of something is something. -/
theorem exists_of_rel {R : α → β → Prop} {x : Option α} {y : Option β} (h : Option.Rel R x y)
    {a : α} (ha : x = some a) : ∃ b, y = some b ∧ R a b := by
  subst ha
  cases h with
  | some hab => exact ⟨_, rfl, hab⟩

/-- Where labels are distinct, an element is found by its label. -/
theorem find?_eq_some_of_nodup {μ : Type} [DecidableEq μ] {label : α → μ} {xs : List α}
    (h : (xs.map label).Nodup) {x : α} (hx : x ∈ xs) :
    xs.find? (label · == label x) = some x := by
  cases hfound : xs.find? (label · == label x) with
  | none => simpa using List.find?_eq_none.1 hfound x hx
  | some first =>
    have hlabel : label first = label x := by simpa using List.find?_some hfound
    rw [List.inj_on_of_nodup_map h (List.mem_of_find?_eq_some hfound) hx hlabel]

/-! ## Lists that go on -/

/-- The second list starts with counterparts of the elements of the first. -/
inductive ExtendsBy (R : α → β → Prop) : List α → List β → Prop where
  | nil (ys : List β) : ExtendsBy R [] ys
  | cons {x : α} {y : β} {xs : List α} {ys : List β} :
      R x y → ExtendsBy R xs ys → ExtendsBy R (x :: xs) (y :: ys)

namespace ExtendsBy
variable {R : α → β → Prop}

theorem refl {R : α → α → Prop} (hrefl : ∀ x, R x x) (xs : List α) : ExtendsBy R xs xs := by
  induction xs with
  | nil => exact .nil []
  | cons x xs ih => exact .cons (hrefl x) ih

theorem trans {S : β → γ → Prop} {T : α → γ → Prop} (htrans : ∀ x y z, R x y → S y z → T x z)
    {xs : List α} {ys : List β} {zs : List γ} (h : ExtendsBy R xs ys) (h' : ExtendsBy S ys zs) :
    ExtendsBy T xs zs := by
  induction h generalizing zs with
  | nil => exact .nil zs
  | cons hxy _ ih =>
    cases h' with
    | cons hyz hys => exact .cons (htrans _ _ _ hxy hyz) (ih hys)

theorem exists_mem {xs : List α} {ys : List β} (h : ExtendsBy R xs ys) {x : α} (hx : x ∈ xs) :
    ∃ y ∈ ys, R x y := by
  induction h with
  | nil => simp at hx
  | @cons a b _ _ hab _ ih =>
    rcases List.mem_cons.1 hx with rfl | hx
    · exact ⟨b, by simp, hab⟩
    · obtain ⟨y, hy, hxy⟩ := ih hx
      exact ⟨y, by simp [hy], hxy⟩

/-- What elements have in common with their counterparts is a prefix. -/
theorem prefix_map {f : α → γ} {g : β → γ} (himp : ∀ x y, R x y → f x = g y)
    {xs : List α} {ys : List β} (h : ExtendsBy R xs ys) : xs.map f <+: ys.map g := by
  induction h with
  | nil ys => exact List.nil_prefix
  | cons hxy _ ih => simpa [himp _ _ hxy] using ih

theorem map {S : γ → δ → Prop} {f : α → γ} {g : β → δ} (step : ∀ x y, R x y → S (f x) (g y))
    {xs : List α} {ys : List β} (h : ExtendsBy R xs ys) :
    ExtendsBy S (xs.map f) (ys.map g) := by
  induction h with
  | nil => exact .nil _
  | cons hxy _ ih => exact .cons (step _ _ hxy) ih

theorem of_isPrefix {xs ys : List α} (h : xs <+: ys) : ExtendsBy (· = ·) xs ys := by
  obtain ⟨rest, rfl⟩ := h
  induction xs with
  | nil => exact .nil _
  | cons x xs ih => exact .cons rfl ih

theorem to_isPrefix {xs ys : List α} (h : ExtendsBy (· = ·) xs ys) : xs <+: ys := by
  simpa using h.prefix_map (f := id) (g := id) fun _ _ hxy => hxy

/-- Traversals that take counterparts to counterparts keep the comparison. -/
theorem mapM {S : γ → δ → Prop} {f : α → Except ε γ} {g : β → Except ε δ}
    (step : ∀ x y a b, R x y → f x = .ok a → g y = .ok b → S a b)
    {xs : List α} {ys : List β} {as : List γ} {bs : List δ} (h : ExtendsBy R xs ys)
    (ha : xs.mapM f = .ok as) (hb : ys.mapM g = .ok bs) : ExtendsBy S as bs := by
  rw [mapM_eq_ok_iff] at ha hb
  induction h generalizing as bs with
  | nil =>
    cases ha
    exact .nil bs
  | cons hxy _ ih =>
    cases ha with
    | cons hfx ha =>
      cases hb with
      | cons hgy hb => exact .cons (step _ _ _ _ hxy hfx hgy) (ih ha hb)

end ExtendsBy

/-! ## Lists in another order -/

/-- The second list holds counterparts of the elements of the first in any order. -/
def RearrangesBy (R : α → β → Prop) (xs : List α) (ys : List β) : Prop :=
  ∃ zs, List.Forall₂ R xs zs ∧ zs.Perm ys

namespace RearrangesBy
variable {R : α → β → Prop}

theorem of_perm {xs ys : List α} (h : xs.Perm ys) : RearrangesBy (· = ·) xs ys :=
  ⟨xs, by simp, h⟩

theorem to_perm {xs ys : List α} (h : RearrangesBy (· = ·) xs ys) : xs.Perm ys := by
  obtain ⟨zs, hxs, hzs⟩ := h
  rw [List.forall₂_eq_eq_eq] at hxs
  exact hxs ▸ hzs

theorem map {S : γ → δ → Prop} {f : α → γ} {g : β → δ} (step : ∀ x y, R x y → S (f x) (g y))
    {xs : List α} {ys : List β} (h : RearrangesBy R xs ys) :
    RearrangesBy S (xs.map f) (ys.map g) := by
  obtain ⟨zs, hxs, hzs⟩ := h
  refine ⟨zs.map g, ?_, hzs.map g⟩
  simp only [List.forall₂_map_left_iff, List.forall₂_map_right_iff]
  exact hxs.imp step

/-- A traversal succeeds on the one list if its counterpart does on the other, and then
the results are rearranged as well. -/
theorem mapM {S : γ → δ → Prop} {f : α → Except ε γ} {g : β → Except ε δ}
    (step : ∀ x y a, f x = .ok a → R x y → ∃ b, S a b ∧ g y = .ok b)
    {xs : List α} {ys : List β} {as : List γ} (h : RearrangesBy R xs ys)
    (ha : xs.mapM f = .ok as) : ∃ bs, ys.mapM g = .ok bs ∧ RearrangesBy S as bs := by
  obtain ⟨zs, hxs, hzs⟩ := h
  obtain ⟨ds, hds, hgs⟩ := forall₂_complete (fun x a y => step x y a) (mapM_eq_ok_iff.1 ha) hxs
  obtain ⟨bs, hbs, hperm⟩ := List.perm_comp_forall₂ hzs.symm hgs
  exact ⟨bs, mapM_eq_ok_iff.2 hbs, ds, hds, hperm.symm⟩

end RearrangesBy

/-- A traversal of a list in another order gives its results in another order. -/
theorem exists_mapM_of_perm {f g : α → Except ε β} (step : ∀ x a, f x = .ok a → g x = .ok a)
    {xs ys : List α} (h : xs.Perm ys) {as : List β} (ha : xs.mapM f = .ok as) :
    ∃ bs, ys.mapM g = .ok bs ∧ as.Perm bs := by
  obtain ⟨bs, hbs, hrearranged⟩ := RearrangesBy.mapM (S := (· = ·))
    (fun x _ a hfx heq => ⟨a, rfl, heq ▸ step x a hfx⟩) (.of_perm h) ha
  exact ⟨bs, hbs, hrearranged.to_perm⟩

end ResolverTypings
