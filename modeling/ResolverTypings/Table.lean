/-!
# Tables

A table is a list of keys with values that keeps the order in which its keys were
first put. Putting a key again changes its value and leaves it where it stands.
-/
namespace ResolverTypings

/-- Keys with values, in the order of the first writes. -/
abbrev Table (κ α : Type) := List (κ × α)

namespace Table
variable {κ α : Type} [DecidableEq κ]

/-- Set the value of a key, in its place if it has one and at the end if not. -/
def put : Table κ α → κ → α → Table κ α
  | [], k, v => [(k, v)]
  | (k', v') :: rest, k, v => if k' = k then (k', v) :: rest else (k', v') :: put rest k v

/-- The value of a key. -/
def get? : Table κ α → κ → Option α
  | [], _ => none
  | (k', v) :: rest, k => if k' = k then some v else get? rest k

/-- The keys in order. -/
def keys (t : Table κ α) : List κ :=
  t.map (·.1)

@[simp] theorem get?_put (t : Table κ α) (k : κ) (v : α) (k' : κ) :
    (t.put k v).get? k' = if k = k' then some v else t.get? k' := by
  induction t with
  | nil => rfl
  | cons entry rest ih =>
    obtain ⟨a, b⟩ := entry
    by_cases h : a = k
    · subst h
      by_cases hk : a = k' <;> simp [put, get?, hk]
    · by_cases hk : a = k'
      · subst hk
        simp [put, get?, h, Ne.symm h]
      · simp [put, get?, h, hk, ih]

/-- A new key comes last, and a known one stays where it is. -/
theorem keys_put (t : Table κ α) (k : κ) (v : α) :
    keys (t.put k v) = if k ∈ t.keys then t.keys else t.keys ++ [k] := by
  induction t with
  | nil => simp [put, keys]
  | cons entry rest ih =>
    obtain ⟨a, b⟩ := entry
    by_cases h : a = k
    · simp [put, keys, h]
    · have hput : keys (put ((a, b) :: rest) k v) = a :: keys (put rest k v) := by
        simp [put, keys, h]
      have hcons : keys ((a, b) :: rest) = a :: keys rest := rfl
      rw [hput, hcons, ih]
      by_cases hk : k ∈ keys rest
      · simp [hk]
      · simp [hk, Ne.symm h]

/-- Keys stay distinct. -/
theorem nodup_keys_put (t : Table κ α) (k : κ) (v : α) (h : t.keys.Nodup) :
    (keys (t.put k v)).Nodup := by
  rw [keys_put]
  split
  · exact h
  · next hk =>
    refine List.nodup_append.2 ⟨h, by simp, ?_⟩
    intro a ha b hb hab
    rw [List.mem_singleton.1 hb] at hab
    exact hk (hab ▸ ha)

/-- Put every entry of the second table into the first. -/
def merge (t u : Table κ α) : Table κ α :=
  u.foldl (fun acc entry => acc.put entry.1 entry.2) t

/-- The table that results from putting the entries of a list in order. -/
def ofList (entries : List (κ × α)) : Table κ α :=
  merge [] entries

end Table
end ResolverTypings
