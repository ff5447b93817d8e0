import Mathlib.Data.List.Pairwise
import ResolverTypings.Proofs.MergedTables
import ResolverTypings.Service.Fetch

/-!
# Headers in layers

The headers of a request are put together from layers: what the request sets by itself, then
lines, tokens and keys in the order in which they are put on top. Together they are the table of
all that the layers set. A name in one spelling has the value that was set last. Names are told
apart by their case, though, so one name in two spellings is sent twice.
-/
namespace ResolverTypings.Service

variable {credentials : Credentials} {entries : List (String × String)}

/-! ## Layers -/

/-- Credentials that are put together from layers, and what these set, the innermost first. -/
inductive Layered : Credentials → List (String × String) → Prop where
  | none : Layered .none []
  | bearer (token : String) : Layered (.bearer token) [("Authorization", "Bearer " ++ token)]
  | apiKey (key header : String) : Layered (.apiKey key header) [(header, key)]
  | lines {lines : List String} {headers : Headers} {entries : List (String × String)}
      (hheaders : Headers.ofLines lines = .ok headers)
      (hentries : lines.mapM readHeader = .ok entries) : Layered (.fixed headers) entries
  | merged {headers : Headers} {more : Credentials} {entries others : List (String × String)}
      (hbase : Layered (.fixed headers) entries) (hmore : Layered more others) :
      Layered (.fixed (headers.withCredentials more)) (entries ++ others)

theorem ofLines_eq_ok_iff {lines : List String} {headers : Headers} :
    Headers.ofLines lines = .ok headers ↔
      ∃ entries, lines.mapM readHeader = .ok entries ∧ Table.ofList entries = headers :=
  map_eq_ok_iff

/-- Layers are the table of what they set. -/
theorem Layered.headers_eq (h : Layered credentials entries) :
    credentials.headers = Table.ofList entries := by
  induction h with
  | none => rfl
  | bearer token => rfl
  | apiKey key header => rfl
  | lines hheaders hentries =>
    obtain ⟨entries', hentries', rfl⟩ := ofLines_eq_ok_iff.1 hheaders
    cases hentries.symm.trans hentries'
    rfl
  | @merged headers more entries others hbase hmore ihbase ihmore =>
    change headers = Table.ofList entries at ihbase
    change Table.merge headers more.headers = Table.ofList (entries ++ others)
    rw [ihmore, ihbase, Table.merge_ofList, Table.ofList_append]

section Laws
variable {headers more : Headers}

/-- Layers may be put together from the inside or from the outside. -/
theorem withCredentials_assoc (hmore : more.keys.Nodup) (headers : Headers)
    (credentials : Credentials) :
    (headers.withCredentials (.fixed more)).withCredentials credentials =
      headers.withCredentials (.fixed (more.withCredentials credentials)) :=
  Table.merge_merge hmore headers credentials.headers

theorem withCredentials_self (hheaders : headers.keys.Nodup) :
    headers.withCredentials (.fixed headers) = headers :=
  Table.merge_self hheaders

theorem empty_withCredentials (hmore : more.keys.Nodup) :
    Headers.withCredentials [] (.fixed more) = more :=
  Table.ofList_of_nodup hmore

end Laws

/-- What a request sets by itself. -/
def contentType : String × String := ("Content-Type", "application/json")

/-- The headers of a request are the table of what the layers set on top of its own. -/
theorem Layered.schemaHeaders_eq (h : Layered credentials entries) :
    schemaHeaders credentials = Table.ofList (contentType :: entries) := by
  change Table.merge [contentType] credentials.headers = _
  rw [h.headers_eq, Table.merge_ofList]
  rfl

/-- Whatever comes of an attempt, its headers are those of its credentials. -/
theorem headers_attempt (url : String) (credentials : Credentials) (reply : Reply) :
    (attempt url credentials reply).headers = schemaHeaders credentials := by
  unfold attempt
  split <;> rfl

/-! ## Spellings -/

/-- Whether two names are the same up to the case of letters of ASCII. -/
def sameName (a b : String) : Bool :=
  a.toLower == b.toLower

theorem sameName_comm (a b : String) : sameName a b = sameName b a :=
  BEq.comm

/-- Headers tell every name once, whatever its spelling, and with the value that is set last
under any spelling. -/
structure SentOnce (headers : Headers) (entries : List (String × String)) : Prop where
  distinct : headers.keys.Pairwise fun a b => sameName a b = false
  last : ∀ header ∈ headers, Table.lastOf? entries (sameName · header.1) = some header.2

/-- All entries for one name spell it in one way. -/
def SpelledAlike (entries : List (String × String)) : Prop :=
  ∀ a ∈ entries, ∀ b ∈ entries, sameName a.1 b.1 = true → a.1 = b.1

instance : Decidable (SpelledAlike entries) :=
  inferInstanceAs (Decidable (∀ a ∈ entries, ∀ b ∈ entries, sameName a.1 b.1 = true → a.1 = b.1))

/-- The table of entries tells every name once just where they spell it in one way. -/
theorem sentOnce_ofList_iff : SentOnce (Table.ofList entries) entries ↔ SpelledAlike entries := by
  have hnodup : (Table.keys (Table.ofList entries)).Nodup := Table.nodup_keys_ofList entries
  constructor
  · intro honce a ha b hb hsame
    by_contra hne
    have : Std.Symm fun a b => sameName a b = false :=
      ⟨fun a b hab => (sameName_comm b a).trans hab⟩
    have hkey : ∀ entry ∈ entries, entry.1 ∈ Table.keys (Table.ofList entries) :=
      fun entry hentry => Table.mem_keys_ofList.2 ⟨entry, hentry, rfl⟩
    have hdiffer := honce.distinct.forall (hkey a ha) (hkey b hb) hne
    rw [hsame] at hdiffer
    cases hdiffer
  · intro hone
    refine ⟨hnodup.pairwise_of_forall_ne fun name hname name' hname' hne => ?_, ?_⟩
    · obtain ⟨a, ha, rfl⟩ := Table.mem_keys_ofList.1 hname
      obtain ⟨b, hb, rfl⟩ := Table.mem_keys_ofList.1 hname'
      rw [← Bool.not_eq_true]
      exact fun hsame => hne (hone a ha b hb hsame)
    · rintro ⟨name, value⟩ hheader
      obtain ⟨a, ha, rfl⟩ := Table.mem_keys_ofList.1 (List.mem_map.2 ⟨_, hheader, rfl⟩)
      -- Among the entries only this spelling of the name occurs.
      have hspelling : Table.lastOf? entries (sameName · a.1) =
          Table.lastOf? entries (· = a.1) := by
        refine Table.lastOf?_congr fun entry hentry => ?_
        rw [Bool.eq_iff_iff, decide_eq_true_iff]
        refine ⟨hone entry hentry a ha, fun heq => ?_⟩
        rw [heq, sameName, beq_self_eq_true]
      change Table.lastOf? entries (sameName · a.1) = some value
      rw [hspelling, ← Table.get?_ofList]
      exact (Table.get?_eq_some_iff hnodup).2 hheader

end ResolverTypings.Service
