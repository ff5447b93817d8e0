import ResolverTypings.Command.Run
import ResolverTypings.Proofs.Service.Headers

/-!
# Credentials of a command line

The headers that a command line gives are put on top of what a request sets by itself, and its
token on top of them. What is on top counts, but only for a name in one spelling: a header
`authorization` stays beside the `Authorization` of the token, and both are sent.
-/
namespace ResolverTypings.Command

open Service

/-- What the token of an invocation sets. An empty one counts as none. -/
def tokenEntries (invocation : Invocation) : List (String × String) :=
  match nonEmpty invocation.bearerToken with
  | none => []
  | some token => [("Authorization", "Bearer " ++ token)]

/-- The credentials of an invocation are its headers with those of its token on top. -/
theorem layered_credentialsOf {invocation : Invocation} {credentials : Credentials}
    (h : credentialsOf invocation = .ok credentials) :
    ∃ entries, invocation.headers.mapM readHeader = .ok entries ∧
      Layered credentials (entries ++ tokenEntries invocation) := by
  cases hheaders : Headers.ofLines invocation.headers with
  | error error =>
    rw [credentialsOf, hheaders] at h
    cases h
  | ok headers =>
    obtain ⟨entries, hentries, -⟩ := ofLines_eq_ok_iff.1 hheaders
    have hlines : Layered (.fixed headers) entries := .lines hheaders hentries
    refine ⟨entries, hentries, ?_⟩
    cases htoken : nonEmpty invocation.bearerToken with
    | none =>
      rw [credentialsOf, hheaders, htoken] at h
      rw [tokenEntries, htoken, List.append_nil]
      cases h
      exact hlines
    | some token =>
      rw [credentialsOf, hheaders, htoken] at h
      rw [tokenEntries, htoken]
      cases h
      exact hlines.merged (.bearer token)

/-- **A header is sent once if all layers spell it alike.** The headers of an attempt hold each
spelling of a name that some layer sets once, with the value that is set last in this spelling.
So they tell every name once, with the value that is set last, just where no two layers spell it
in different ways. On the command line the token is the outermost layer. -/
theorem sentOnce_attempt_iff {credentials : Credentials} {entries : List (String × String)}
    (hlayers : Layered credentials entries) (url : String) (reply : Reply) :
    (SentOnce (attempt url credentials reply).headers (contentType :: entries) ↔
        SpelledAlike (contentType :: entries)) ∧
      (attempt url credentials reply).headers.keys.Nodup ∧
      (∀ name, (attempt url credentials reply).headers.get? name =
        Table.lastOf? (contentType :: entries) (· = name)) ∧
      ∀ invocation, credentialsOf invocation = .ok credentials →
        ∃ given, invocation.headers.mapM readHeader = .ok given ∧
          Layered credentials (given ++ tokenEntries invocation) := by
  rw [headers_attempt, hlayers.schemaHeaders_eq]
  exact ⟨sentOnce_ofList_iff, Table.nodup_keys_ofList _, Table.get?_ofList _,
    fun invocation => layered_credentialsOf⟩

/-- The endpoint of a service for tenants. -/
def tenantsUrl : String := "http://tenants.local/graphql"

/-- A command line that asks a service with a header and a token. -/
def askWith (header : String) : Invocation where
  schema := none
  endpoint := some tenantsUrl
  output := "out.ts"
  config := none
  internalEnumValues := false
  excludePrefix := none
  bearerToken := some "t"
  headers := [header]
  verbose := false

theorem sentOnce_attempt_tenant :
    ∃ credentials entries, credentialsOf (askWith "X-Tenant: a") = .ok credentials ∧
      Layered credentials entries ∧
      SentOnce (attempt tenantsUrl credentials (.unreachable "")).headers
        (contentType :: entries) := by
  have hcredentials : credentialsOf (askWith "X-Tenant: a") =
      .ok (.fixed [("X-Tenant", "a"), ("Authorization", "Bearer t")]) := rfl
  obtain ⟨entries, hentries, hlayers⟩ := layered_credentialsOf hcredentials
  obtain rfl : [("X-Tenant", "a")] = entries := Except.ok.inj hentries
  refine ⟨_, _, hcredentials, hlayers, (sentOnce_attempt_iff hlayers _ _).1.2 ?_⟩
  decide +kernel

/-- A header in small letters is sent beside the token. -/
theorem not_sentOnce_attempt_smallLetters :
    ∃ credentials entries,
      credentialsOf (askWith "authorization: Basic YTpi") = .ok credentials ∧
      Layered credentials entries ∧
      ¬ SentOnce (attempt tenantsUrl credentials (.unreachable "")).headers
        (contentType :: entries) := by
  have hcredentials : credentialsOf (askWith "authorization: Basic YTpi") =
      .ok (.fixed [("authorization", "Basic YTpi"), ("Authorization", "Bearer t")]) := rfl
  obtain ⟨entries, -, hlayers⟩ := layered_credentialsOf hcredentials
  refine ⟨_, _, hcredentials, hlayers, fun honce => ?_⟩
  have hdistinct := honce.distinct
  rw [headers_attempt] at hdistinct
  revert hdistinct
  decide +kernel

end ResolverTypings.Command
