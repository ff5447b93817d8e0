import Mathlib.Data.List.Induction
import ResolverTypings.Proofs.Tables

/-!
# Tables put on one another

Entries are put into a table in order, each in the place of the one with its key if there is
one. The last entry of a key counts. It makes no difference whether the entries come one by one
or as a table of their own, for a key that was put before may as well be put later.
-/
namespace ResolverTypings.Table

/-! ## Last values -/

section LastValues

variable {κ α : Type}

/-- The value of the last entry whose key has a property. -/
def lastOf? (entries : List (κ × α)) (property : κ → Bool) : Option α :=
  (entries.reverse.find? fun entry => property entry.1).map (·.2)

theorem lastOf?_cons (entry : κ × α) (entries : List (κ × α)) (property : κ → Bool) :
    lastOf? (entry :: entries) property =
      (lastOf? entries property).or (if property entry.1 then some entry.2 else none) := by
  simp only [lastOf?, List.reverse_cons, List.find?_append, Option.map_or]
  cases hentry : property entry.1 <;> simp [hentry]

theorem isSome_lastOf?_iff {entries : List (κ × α)} {property : κ → Bool} :
    (lastOf? entries property).isSome ↔ ∃ entry ∈ entries, property entry.1 := by
  simp [lastOf?]

/-- Keys that are alike on the entries have the same last value. -/
theorem lastOf?_congr {entries : List (κ × α)} {property property' : κ → Bool}
    (h : ∀ entry ∈ entries, property entry.1 = property' entry.1) :
    lastOf? entries property = lastOf? entries property' := by
  induction entries with
  | nil => rfl
  | cons entry entries ih =>
    rw [List.forall_mem_cons] at h
    rw [lastOf?_cons, lastOf?_cons, h.1, ih h.2]

end LastValues

variable {κ α : Type} [DecidableEq κ]

/-! ## Writes -/

theorem put_put (t : Table κ α) (k : κ) (v w : α) : (t.put k v).put k w = t.put k w := by
  induction t with
  | nil => simp [put]
  | cons entry rest ih => by_cases hk : entry.1 = k <;> simp [put, hk, ih]

/-- A known key may be put before another one or behind it. -/
theorem put_comm {t : Table κ α} {k a : κ} (hk : k ∈ t.keys) (ha : a ≠ k) (v b : α) :
    (t.put a b).put k v = (t.put k v).put a b := by
  induction t with
  | nil => simp [keys] at hk
  | cons entry rest ih =>
    by_cases hentry : entry.1 = k
    · subst hentry
      simp [put, Ne.symm ha]
    · have hrest : k ∈ keys rest := by simpa [keys, Ne.symm hentry] using hk
      by_cases hother : entry.1 = a
      · subst hother
        simp [put, ha]
      · simp [put, hentry, hother, ih hrest]

theorem mem_keys_put (t : Table κ α) (k : κ) (v : α) : k ∈ keys (t.put k v) := by
  rw [← isSome_get?_iff, get?_put]
  simp

theorem put_of_not_mem {t : Table κ α} {k : κ} (h : k ∉ t.keys) (v : α) :
    t.put k v = t ++ [(k, v)] := by
  induction t with
  | nil => rfl
  | cons entry rest ih =>
    obtain ⟨hne, hrest⟩ : k ≠ entry.1 ∧ k ∉ keys rest := by simpa [keys] using h
    simp [put, Ne.symm hne, ih hrest]

/-- Writing what is there changes nothing. -/
theorem put_of_get? {t : Table κ α} {k : κ} {v : α} (h : t.get? k = some v) : t.put k v = t := by
  induction t with
  | nil => simp [get?] at h
  | cons entry rest ih =>
    by_cases hk : entry.1 = k
    · subst hk
      obtain rfl : entry.2 = v := by simpa [get?] using h
      simp [put]
    · have hrest : get? rest k = some v := by simpa [get?, hk] using h
      simp [put, hk, ih hrest]

/-! ## Merges -/

theorem merge_append (t : Table κ α) (entries more : List (κ × α)) :
    t.merge (entries ++ more) = (t.merge entries).merge more :=
  List.foldl_append

/-- What is put last under a key counts. -/
theorem get?_merge (t : Table κ α) (entries : List (κ × α)) (k : κ) :
    (t.merge entries).get? k = (lastOf? entries (· = k)).or (t.get? k) := by
  induction entries generalizing t with
  | nil => rfl
  | cons entry entries ih =>
    change ((t.put entry.1 entry.2).merge entries).get? k = _
    rw [ih, lastOf?_cons, get?_put, Option.or_assoc]
    by_cases hk : entry.1 = k <;> simp [hk]

theorem nodup_keys_merge {t : Table κ α} (ht : t.keys.Nodup) (entries : List (κ × α)) :
    (keys (t.merge entries)).Nodup := by
  induction entries generalizing t with
  | nil => exact ht
  | cons entry entries ih => exact ih (nodup_keys_put t entry.1 entry.2 ht)

theorem mem_merge {t : Table κ α} {entries : List (κ × α)} {entry : κ × α}
    (h : entry ∈ t.merge entries) : entry ∈ t ∨ entry ∈ entries := by
  induction entries generalizing t with
  | nil => exact .inl h
  | cons first entries ih =>
    rcases ih h with hput | hmem
    · rcases mem_put hput with rfl | hold
      · exact .inr (by simp)
      · exact .inl hold
    · exact .inr (List.mem_cons_of_mem first hmem)

/-- Entries that are there change nothing. -/
theorem merge_of_forall_get? {t : Table κ α} {entries : List (κ × α)}
    (h : ∀ entry ∈ entries, t.get? entry.1 = some entry.2) : t.merge entries = t := by
  induction entries with
  | nil => rfl
  | cons entry entries ih =>
    rw [List.forall_mem_cons] at h
    change (t.put entry.1 entry.2).merge entries = t
    rw [put_of_get? h.1, ih h.2]

theorem merge_self {t : Table κ α} (ht : t.keys.Nodup) : t.merge t = t :=
  merge_of_forall_get? fun _ hentry => (get?_eq_some_iff ht).2 hentry

/-- A known key may be put before entries with other keys or behind them. -/
theorem put_merge {t : Table κ α} {k : κ} (hk : k ∈ t.keys) {entries : List (κ × α)}
    (hentries : k ∉ entries.map (·.1)) (v : α) :
    (t.merge entries).put k v = (t.put k v).merge entries := by
  induction entries generalizing t with
  | nil => rfl
  | cons entry entries ih =>
    obtain ⟨hne, hrest⟩ : k ≠ entry.1 ∧ k ∉ entries.map (·.1) := by simpa using hentries
    have hknown : k ∈ keys (t.put entry.1 entry.2) := by
      rw [keys_put]
      split
      · exact hk
      · exact List.mem_append_left _ hk
    change ((t.put entry.1 entry.2).merge entries).put k v =
      ((t.put k v).put entry.1 entry.2).merge entries
    rw [ih hknown hrest, put_comm hk hne.symm]

theorem merge_put {u : Table κ α} (hu : u.keys.Nodup) (t : Table κ α) (k : κ) (v : α) :
    t.merge (u.put k v) = (t.merge u).put k v := by
  induction u generalizing t with
  | nil => rfl
  | cons entry rest ih =>
    obtain ⟨hnew, hrest⟩ : entry.1 ∉ keys rest ∧ (keys rest).Nodup := by simpa [keys] using hu
    by_cases hk : entry.1 = k
    · subst hk
      have hput : put (entry :: rest) entry.1 v = (entry.1, v) :: rest := by simp [put]
      rw [hput]
      change (t.put entry.1 v).merge rest = ((t.put entry.1 entry.2).merge rest).put entry.1 v
      rw [put_merge (mem_keys_put t _ _) hnew, put_put]
    · have hput : put (entry :: rest) k v = entry :: put rest k v := by simp [put, hk]
      rw [hput]
      exact ih hrest (t.put entry.1 entry.2)

theorem ofList_append (entries more : List (κ × α)) :
    ofList (entries ++ more) = (ofList entries).merge more :=
  merge_append [] entries more

theorem nodup_keys_ofList (entries : List (κ × α)) : (keys (ofList entries)).Nodup :=
  nodup_keys_merge (by simp [keys]) entries

/-- Merging the table of entries comes to putting them in order. -/
theorem merge_ofList (t : Table κ α) (entries : List (κ × α)) :
    t.merge (ofList entries) = t.merge entries := by
  induction entries using List.reverseRecOn with
  | nil => rfl
  | append_singleton entries entry ih =>
    rw [ofList_append, merge_append, ← ih]
    exact merge_put (nodup_keys_ofList entries) t entry.1 entry.2

/-- A table is the table of its entries. -/
theorem ofList_of_nodup {t : Table κ α} (ht : t.keys.Nodup) : ofList t = t := by
  induction t using List.reverseRecOn with
  | nil => rfl
  | append_singleton t entry ih =>
    have hkeys : (keys t ++ [entry.1]).Nodup := by simpa [keys] using ht
    obtain ⟨hfront, hnew⟩ : (keys t).Nodup ∧ entry.1 ∉ keys t := by
      simpa [List.nodup_append'] using hkeys
    rw [ofList_append, ih hfront]
    exact put_of_not_mem hnew entry.2

/-- Tables may be merged from the front or from the back. -/
theorem merge_merge {u : Table κ α} (hu : u.keys.Nodup) (t : Table κ α)
    (entries : List (κ × α)) : (t.merge u).merge entries = t.merge (u.merge entries) :=
  calc
    (t.merge u).merge entries = t.merge (u ++ entries) := (merge_append t u entries).symm
    _ = t.merge (ofList (u ++ entries)) := (merge_ofList t (u ++ entries)).symm
    _ = t.merge (u.merge entries) := by rw [ofList_append, ofList_of_nodup hu]

/-! ## Tables of entries -/

theorem get?_ofList (entries : List (κ × α)) (k : κ) :
    (ofList entries).get? k = lastOf? entries (· = k) := by
  rw [ofList, get?_merge]
  exact Option.or_none

theorem mem_of_mem_ofList {entries : List (κ × α)} {entry : κ × α} (h : entry ∈ ofList entries) :
    entry ∈ entries := by
  rcases mem_merge h with hnil | hmem
  · simp at hnil
  · exact hmem

theorem mem_keys_ofList {entries : List (κ × α)} {k : κ} :
    k ∈ keys (ofList entries) ↔ ∃ entry ∈ entries, entry.1 = k := by
  rw [← isSome_get?_iff, get?_ofList, isSome_lastOf?_iff]
  simp

end ResolverTypings.Table
