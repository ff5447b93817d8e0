import Mathlib.Data.List.Nodup
import ResolverTypings.Proofs.Sequences
import ResolverTypings.Table

/-!
# Tables gathered from parts

The definitions of a document are gathered into tables: each part is merged into the entry
of its key, or into an empty value if there is none. The entry of a key depends on the
parts of that key alone, in their order; the other parts only decide where it stands.
-/
namespace ResolverTypings.Table

variable {κ α β : Type} [DecidableEq κ]

/-! ## Entries and keys -/

theorem mem_of_get? {t : Table κ α} {k : κ} {v : α} (h : t.get? k = some v) : (k, v) ∈ t := by
  induction t with
  | nil => simp [get?] at h
  | cons entry rest ih =>
    obtain ⟨k', v'⟩ := entry
    by_cases hk : k' = k
    · simp_all [get?]
    · simp only [get?, hk, if_false] at h
      exact List.mem_cons_of_mem _ (ih h)

theorem get?_eq_some_iff {t : Table κ α} (ht : t.keys.Nodup) {k : κ} {v : α} :
    t.get? k = some v ↔ (k, v) ∈ t := by
  refine ⟨mem_of_get?, fun h => ?_⟩
  induction t with
  | nil => simp at h
  | cons entry rest ih =>
    obtain ⟨k', v'⟩ := entry
    have hkeys : k' ∉ keys rest ∧ (keys rest).Nodup := by simpa [keys] using ht
    rcases List.mem_cons.1 h with heq | hmem
    · simp_all [get?]
    · have hne : k' ≠ k := by
        rintro rfl
        exact hkeys.1 (List.mem_map.2 ⟨(k', v), hmem, rfl⟩)
      simp [get?, hne, ih hkeys.2 hmem]

theorem isSome_get?_iff {t : Table κ α} {k : κ} : (t.get? k).isSome ↔ k ∈ t.keys := by
  induction t with
  | nil => simp [get?, keys]
  | cons entry rest ih =>
    obtain ⟨k', v'⟩ := entry
    by_cases hk : k' = k
    · simp [get?, keys, hk]
    · have hk' : k ≠ k' := Ne.symm hk
      simpa [get?, keys, hk, hk'] using ih

/-- An entry behind a write is the written one or an earlier one. -/
theorem mem_put {t : Table κ α} {k : κ} {v : α} {entry : κ × α} (h : entry ∈ t.put k v) :
    entry = (k, v) ∨ entry ∈ t := by
  induction t with
  | nil => exact .inl (by simpa [put] using h)
  | cons first rest ih =>
    obtain ⟨k', v'⟩ := first
    by_cases hk : k' = k
    · simp only [put, hk, if_true, List.mem_cons] at h ⊢
      rcases h with h | h
      · exact .inl h
      · exact .inr (.inr h)
    · simp only [put, hk, if_false, List.mem_cons] at h ⊢
      rcases h with h | h
      · exact .inr (.inl h)
      · rcases ih h with h | h
        · exact .inl h
        · exact .inr (.inr h)

/-! ## Tables that go on -/

/-- The second table starts with the keys of the first, under values that stand for the
earlier ones. -/
def GrowsTo (R : α → α → Prop) (t u : Table κ α) : Prop :=
  ExtendsBy (fun a b => a.1 = b.1 ∧ R a.2 b.2) t u

namespace GrowsTo
variable {R : α → α → Prop}

omit [DecidableEq κ] in
theorem refl (hrefl : ∀ v, R v v) (t : Table κ α) : GrowsTo R t t :=
  ExtendsBy.refl (fun entry => ⟨rfl, hrefl entry.2⟩) t

omit [DecidableEq κ] in
theorem trans (htrans : ∀ u v w, R u v → R v w → R u w) {s t u : Table κ α}
    (h : GrowsTo R s t) (h' : GrowsTo R t u) : GrowsTo R s u :=
  ExtendsBy.trans
    (fun _ _ _ hab hbc => ⟨hab.1.trans hbc.1, htrans _ _ _ hab.2 hbc.2⟩) h h'

theorem get? {t u : Table κ α} (h : GrowsTo R t u) {k : κ} {v : α} (hv : t.get? k = some v) :
    ∃ w, u.get? k = some w ∧ R v w := by
  induction h with
  | nil => simp [Table.get?] at hv
  | @cons a b _ _ hab _ ih =>
    obtain ⟨hkey, hrel⟩ := hab
    by_cases hk : a.1 = k
    · simp only [Table.get?, hk, if_true, Option.some.injEq] at hv
      exact ⟨b.2, by simp [Table.get?, ← hkey, hk], hv ▸ hrel⟩
    · simp only [Table.get?, hk, if_false] at hv
      obtain ⟨w, hw, hvw⟩ := ih hv
      exact ⟨w, by simp [Table.get?, ← hkey, hk, hw], hvw⟩

/-- A write grows a table if its value stands for the one written before. -/
theorem put (hrefl : ∀ v, R v v) {t : Table κ α} {k : κ} {w : α}
    (h : ∀ v, t.get? k = some v → R v w) : GrowsTo R t (t.put k w) := by
  induction t with
  | nil => exact .nil _
  | cons entry rest ih =>
    obtain ⟨k', v'⟩ := entry
    by_cases hk : k' = k
    · have hput : Table.put ((k', v') :: rest) k w = (k', w) :: rest := by simp [Table.put, hk]
      rw [hput]
      exact .cons ⟨rfl, h v' (by simp [Table.get?, hk])⟩ (refl hrefl rest)
    · have hput : Table.put ((k', v') :: rest) k w = (k', v') :: Table.put rest k w := by
        simp [Table.put, hk]
      rw [hput]
      exact .cons ⟨rfl, hrefl v'⟩ (ih fun v hv => h v (by simp [Table.get?, hk, hv]))

end GrowsTo

/-! ## Tables with the same entries -/

/-- Two tables with distinct keys are rearrangements of each other if every key is in both
or in neither, under values that stand for one another. -/
theorem rearrangesBy_of_get? {R : α → β → Prop} {t : Table κ α} {u : Table κ β}
    (ht : t.keys.Nodup) (hu : u.keys.Nodup) (h : ∀ k, Option.Rel R (t.get? k) (u.get? k)) :
    RearrangesBy (fun a b => a.1 = b.1 ∧ R a.2 b.2) t u := by
  have hcounterpart : ∀ a ∈ t, ∃ b : κ × β, b ∈ u ∧ a.1 = b.1 ∧ R a.2 b.2 := by
    rintro ⟨k, v⟩ hmem
    obtain ⟨w, hfound, hvw⟩ := exists_of_rel (h k) ((get?_eq_some_iff ht).2 hmem)
    exact ⟨(k, w), mem_of_get? hfound, rfl, hvw⟩
  -- The counterparts of the entries of `t`, in its order, are the entries of `u`.
  obtain ⟨zs, hzs⟩ := exists_forall₂ hcounterpart
  have hsub : ∀ b ∈ zs, b ∈ u := by
    intro b hb
    obtain ⟨a, -, hab, -⟩ := exists_mem_of_forall₂ hzs hb
    exact hab
  have hkeys : zs.map (·.1) = t.keys :=
    (map_eq_map_of_forall₂ (fun _ _ hab => hab.2.1) hzs).symm
  refine ⟨zs, hzs.imp fun _ _ hab => hab.2, ?_⟩
  refine (List.perm_ext_iff_of_nodup (List.Nodup.of_map _ (hkeys ▸ ht))
    (List.Nodup.of_map _ hu)).2 fun b => ⟨hsub b, fun hb => ?_⟩
  have hb' := (get?_eq_some_iff hu).2 hb
  have hk : b.1 ∈ zs.map (·.1) := by
    have hrel := h b.1
    rw [hb'] at hrel
    rw [hkeys, ← isSome_get?_iff]
    cases ht' : t.get? b.1 with
    | none => rw [ht'] at hrel; cases hrel
    | some => rfl
  obtain ⟨c, hc, hcb⟩ := List.mem_map.1 hk
  have hc' := (get?_eq_some_iff hu).2 (hsub c hc)
  rw [hcb, hb'] at hc'
  have heq : c = b := Prod.ext hcb (Option.some.inj hc').symm
  exact heq ▸ hc

/-- A table with distinct keys is told by their order and by what stands under each. -/
theorem eq_of_get? {t u : Table κ α} (ht : t.keys.Nodup) (hkeys : u.keys = t.keys)
    (h : ∀ k, u.get? k = t.get? k) : u = t := by
  induction t generalizing u with
  | nil => simpa [keys] using hkeys
  | cons entry rest ih =>
    obtain ⟨k, v⟩ := entry
    cases u with
    | nil => simp [keys] at hkeys
    | cons entry' rest' =>
      obtain ⟨k', v'⟩ := entry'
      obtain ⟨rfl, hrest⟩ : k' = k ∧ keys rest' = keys rest := by simpa [keys] using hkeys
      obtain ⟨hnew, hnodup⟩ : k' ∉ keys rest ∧ (keys rest).Nodup := by simpa [keys] using ht
      obtain rfl : v' = v := by simpa [get?] using h k'
      congr 1
      refine ih hnodup hrest fun j => ?_
      by_cases hj : k' = j
      · -- The first key stands in neither rest.
        subst hj
        have hnone : ∀ s : Table κ α, keys s = keys rest → s.get? k' = none := by
          intro s hs
          rw [← Option.not_isSome_iff_eq_none, isSome_get?_iff, hs]
          exact hnew
        rw [hnone rest' hrest, hnone rest rfl]
      · simpa [get?, hj] using h j

/-! ## Gathering -/

section Gathering

variable {π : Type} (key : π → κ) (empty : α) (merge : α → π → α)

/-- Merge parts in order, each into the entry of its key. -/
def gather (t : Table κ α) (parts : List π) : Table κ α :=
  parts.foldl (fun t part => t.put (key part) (merge ((t.get? (key part)).getD empty) part)) t

/-- The parts of a key. -/
def partsOf (k : κ) (parts : List π) : List π :=
  parts.filter fun part => key part = k

theorem partsOf_eq_nil_iff {parts : List π} {k : κ} :
    partsOf key k parts = [] ↔ k ∉ parts.map key := by
  simp [partsOf, List.filter_eq_nil_iff]

theorem perm_partsOf {parts parts' : List π} (k : κ) (h : parts.Perm parts') :
    (partsOf key k parts).Perm (partsOf key k parts') :=
  h.filter _

theorem isSome_get?_gather (t : Table κ α) (parts : List π) (k : κ) :
    ((gather key empty merge t parts).get? k).isSome ↔
      (t.get? k).isSome ∨ partsOf key k parts ≠ [] := by
  induction parts generalizing t with
  | nil => simp [gather, partsOf]
  | cons part rest ih =>
    rw [gather, List.foldl_cons, ← gather, ih]
    by_cases hk : key part = k
    · simp [partsOf, hk]
    · simp [partsOf, hk]

/-- The entry of a key is what its parts are merged into, one after the other. -/
theorem getD_get?_gather (t : Table κ α) (parts : List π) (k : κ) :
    ((gather key empty merge t parts).get? k).getD empty =
      (partsOf key k parts).foldl merge ((t.get? k).getD empty) := by
  induction parts generalizing t with
  | nil => rfl
  | cons part rest ih =>
    rw [gather, List.foldl_cons, ← gather, ih]
    by_cases hk : key part = k
    · simp [partsOf, hk]
    · simp [partsOf, hk]

theorem nodup_keys_gather {t : Table κ α} (ht : t.keys.Nodup) (parts : List π) :
    (gather key empty merge t parts).keys.Nodup := by
  induction parts generalizing t with
  | nil => exact ht
  | cons part rest ih => exact ih (nodup_keys_put _ _ _ ht)

/-- Gathering keeps what holds of the values, if merging does. -/
theorem forall_mem_gather {P : α → Prop} (hempty : P empty)
    (hmerge : ∀ v part, P v → P (merge v part)) {t : Table κ α} (ht : ∀ entry ∈ t, P entry.2)
    (parts : List π) : ∀ entry ∈ gather key empty merge t parts, P entry.2 := by
  induction parts generalizing t with
  | nil => exact ht
  | cons part rest ih =>
    refine ih fun entry hentry => ?_
    rcases mem_put hentry with rfl | hold
    · refine hmerge _ _ ?_
      cases hv : t.get? (key part) with
      | none => exact hempty
      | some v => exact ht _ (mem_of_get? hv)
    · exact ht entry hold

/-- Gathering grows a table if merging makes values that stand for the earlier ones. -/
theorem growsTo_gather {R : α → α → Prop} (hrefl : ∀ v, R v v)
    (htrans : ∀ u v w, R u v → R v w → R u w) (hmerge : ∀ v part, R v (merge v part))
    (t : Table κ α) (parts : List π) : GrowsTo R t (gather key empty merge t parts) := by
  induction parts generalizing t with
  | nil => exact GrowsTo.refl hrefl t
  | cons part rest ih =>
    refine GrowsTo.trans htrans (GrowsTo.put hrefl fun v hv => ?_) (ih _)
    rw [hv]
    exact hmerge v part

/-- Parts in another order make the same entries if those of one key merge to values that
stand for one another. -/
theorem rel_get?_gather {R : α → α → Prop} {parts parts' : List π} (hperm : parts.Perm parts')
    (k : κ)
    (h : R ((partsOf key k parts).foldl merge empty) ((partsOf key k parts').foldl merge empty)) :
    Option.Rel R ((gather key empty merge [] parts).get? k)
      ((gather key empty merge [] parts').get? k) := by
  have hsome : ((gather key empty merge [] parts).get? k).isSome ↔
      ((gather key empty merge [] parts').get? k).isSome := by
    have hparts : partsOf key k parts = [] ↔ partsOf key k parts' = [] := by
      rw [← List.length_eq_zero_iff, (perm_partsOf key k hperm).length_eq,
        List.length_eq_zero_iff]
    rw [isSome_get?_gather, isSome_get?_gather, ne_eq, ne_eq, hparts]
  have hleft := getD_get?_gather key empty merge [] parts k
  have hright := getD_get?_gather key empty merge [] parts' k
  cases hv : (gather key empty merge [] parts).get? k with
  | none =>
    rw [hv] at hsome
    cases hw : (gather key empty merge [] parts').get? k with
    | none => exact .none
    | some w => simp [hw] at hsome
  | some v =>
    rw [hv] at hsome hleft
    cases hw : (gather key empty merge [] parts').get? k with
    | none => simp [hw] at hsome
    | some w =>
      rw [hw] at hright
      simp only [Option.getD_some, get?, Option.getD_none] at hleft hright
      rw [hleft, hright]
      exact .some h

/-- Parts whose keys are all there add no key. -/
theorem keys_gather_of_subset {t : Table κ α} {parts : List π}
    (h : ∀ part ∈ parts, key part ∈ t.keys) : (gather key empty merge t parts).keys = t.keys := by
  induction parts generalizing t with
  | nil => rfl
  | cons part rest ih =>
    have hkeys : keys (t.put (key part) (merge ((t.get? (key part)).getD empty) part)) =
        t.keys := by
      rw [keys_put, if_pos (h part (by simp))]
    rw [gather, List.foldl_cons, ← gather, ih, hkeys]
    intro other hother
    rw [hkeys]
    exact h other (by simp [hother])

/-- Parts that were gathered change nothing when they are gathered once more, if merging the
parts of a key twice is merging them once. -/
theorem gather_gather {t : Table κ α} (ht : t.keys.Nodup)
    (habsorb : ∀ (v : α) (parts : List π),
      parts.foldl merge (parts.foldl merge v) = parts.foldl merge v)
    (parts : List π) :
    gather key empty merge (gather key empty merge t parts) parts =
      gather key empty merge t parts := by
  have hsome : ∀ k, partsOf key k parts ≠ [] → ((gather key empty merge t parts).get? k).isSome :=
    fun k hk => (isSome_get?_gather key empty merge t parts k).2 (.inr hk)
  refine eq_of_get? (nodup_keys_gather key empty merge ht parts) ?_ fun k => ?_
  · refine keys_gather_of_subset key empty merge fun part hpart => ?_
    rw [← isSome_get?_iff]
    refine hsome _ fun hnil => ?_
    rw [partsOf_eq_nil_iff] at hnil
    exact hnil (List.mem_map_of_mem hpart)
  · have hgetD :
        ((gather key empty merge (gather key empty merge t parts) parts).get? k).getD empty =
          ((gather key empty merge t parts).get? k).getD empty := by
      rw [getD_get?_gather key empty merge (gather key empty merge t parts),
        getD_get?_gather key empty merge t, habsorb]
    have hiff := isSome_get?_gather key empty merge (gather key empty merge t parts) parts k
    rw [or_iff_left_of_imp (hsome k)] at hiff
    cases hfirst : (gather key empty merge t parts).get? k with
    | none => simpa [hfirst] using hiff
    | some v =>
      rw [hfirst] at hiff hgetD
      obtain ⟨w, hw⟩ := Option.isSome_iff_exists.1 (hiff.2 rfl)
      rw [hw] at hgetD ⊢
      exact congrArg some hgetD

end Gathering
end ResolverTypings.Table
