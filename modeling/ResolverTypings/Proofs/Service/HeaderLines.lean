import ResolverTypings.Proofs.Service.Headers
import ResolverTypings.Proofs.Text.Trimming

/-!
# Header lines

A line writes a header if something that is not blank stands before its first colon. Lines are
read in order up to the first one that writes none, and what they write is put into a table.
So reading lines in two parts comes to putting the headers of the second part on top of those of
the first, and putting headers on top of one another is a monoid. The tables that lines make are
those that are found again in their own lines.
-/
namespace ResolverTypings.Service

open Text

/-! ## One line -/

/-- A line with a name: before its first colon stands something that is not blank. -/
def NamesHeader (line : String) : Prop :=
  ∃ before behind, line.toList = before ++ ':' :: behind ∧ ':' ∉ before ∧
    ∃ c ∈ before, isBlank c = false

theorem splitAtColon_append {before : List Char} (h : ':' ∉ before) (behind : List Char) :
    splitAtColon (before ++ ':' :: behind) = some (before, behind) := by
  induction before with
  | nil => simp [splitAtColon]
  | cons c before ih =>
    obtain ⟨hc, hbefore⟩ : ':' ≠ c ∧ ':' ∉ before := by simpa using h
    simp [splitAtColon, Ne.symm hc, ih hbefore]

theorem eq_of_splitAtColon {cs before behind : List Char}
    (h : splitAtColon cs = some (before, behind)) :
    cs = before ++ ':' :: behind ∧ ':' ∉ before := by
  induction cs generalizing before with
  | nil => simp [splitAtColon] at h
  | cons c cs ih =>
    by_cases hc : c = ':'
    · obtain ⟨rfl, rfl⟩ : [] = before ∧ cs = behind := by simpa [splitAtColon, hc] using h
      simp [hc]
    · obtain ⟨front, hfront, rfl⟩ :
          ∃ front, splitAtColon cs = some (front, behind) ∧ c :: front = before := by
        simpa [splitAtColon, hc] using h
      obtain ⟨rfl, hcolon⟩ := ih hfront
      simp [hcolon, Ne.symm hc]

theorem splitAtColon_eq_some_iff {cs before behind : List Char} :
    splitAtColon cs = some (before, behind) ↔ cs = before ++ ':' :: behind ∧ ':' ∉ before := by
  refine ⟨eq_of_splitAtColon, ?_⟩
  intro ⟨hcs, hcolon⟩
  rw [hcs, splitAtColon_append hcolon]

theorem readHeader_of_splitAtColon_eq_none {line : String}
    (h : splitAtColon line.toList = none) : readHeader line = .error ⟨line⟩ := by
  simp only [readHeader, h]
  rfl

theorem readHeader_of_splitAtColon {line : String} {before behind : List Char}
    (h : splitAtColon line.toList = some (before, behind)) :
    readHeader line =
      if trim before = [] then .error ⟨line⟩
      else .ok (String.ofList (trim before), String.ofList (trim behind)) := by
  by_cases hname : trim before = []
  · simp only [readHeader, h, hname, if_true]
    rfl
  · simp only [readHeader, h, List.isEmpty_iff, hname, if_false]
    rfl

/-- What a line writes is what stands before its first colon and behind it. -/
theorem readHeader_eq_ok_iff {line : String} {header : String × String} :
    readHeader line = .ok header ↔
      ∃ before behind, (line.toList = before ++ ':' :: behind ∧ ':' ∉ before) ∧
        trim before ≠ [] ∧
        (String.ofList (trim before), String.ofList (trim behind)) = header := by
  simp only [← splitAtColon_eq_some_iff]
  cases hsplit : splitAtColon line.toList with
  | none => simp [readHeader_of_splitAtColon_eq_none hsplit]
  | some parts =>
    obtain ⟨before, behind⟩ := parts
    rw [readHeader_of_splitAtColon hsplit]
    by_cases hname : trim before = [] <;> simp [hname]

theorem exists_readHeader_iff {line : String} :
    (∃ header, readHeader line = .ok header) ↔ NamesHeader line := by
  constructor
  · intro ⟨header, hread⟩
    obtain ⟨before, behind, ⟨hline, hcolon⟩, hbefore, -⟩ := readHeader_eq_ok_iff.1 hread
    exact ⟨before, behind, hline, hcolon, trim_ne_nil_iff.1 hbefore⟩
  · intro ⟨before, behind, hline, hcolon, hbefore⟩
    exact ⟨_, readHeader_eq_ok_iff.2
      ⟨before, behind, ⟨hline, hcolon⟩, trim_ne_nil_iff.2 hbefore, rfl⟩⟩

/-- A line that writes no header is told by its error. -/
theorem readHeader_eq_error_iff {line : String} {error : HeaderError} :
    readHeader line = .error error ↔ ¬ NamesHeader line ∧ error = ⟨line⟩ := by
  rw [← exists_readHeader_iff]
  cases hsplit : splitAtColon line.toList with
  | none => simp [readHeader_of_splitAtColon_eq_none hsplit, eq_comm]
  | some parts =>
    rw [readHeader_of_splitAtColon hsplit]
    by_cases hname : trim parts.1 = [] <;> simp [hname, eq_comm]

/-! ## Lines in order -/

theorem ofLines_eq_error_iff {lines : List String} {error : HeaderError} :
    Headers.ofLines lines = .error error ↔
      IsFirst (fun line => ¬ NamesHeader line) lines error.line := by
  have hfails : ∀ line, ¬ NamesHeader line ↔ ∃ error, readHeader line = .error error := by
    intro line
    simp [readHeader_eq_error_iff]
  have hmap : Headers.ofLines lines = .error error ↔ lines.mapM readHeader = .error error :=
    map_eq_error_iff
  rw [hmap, mapM_eq_error_iff hfails]
  constructor
  · intro ⟨line, hfirst, hread⟩
    obtain ⟨-, rfl⟩ := readHeader_eq_error_iff.1 hread
    exact hfirst
  · intro hfirst
    exact ⟨error.line, hfirst, readHeader_eq_error_iff.2 ⟨hfirst.holds, rfl⟩⟩

/-- The second part of some lines is read where the first part can be read, and put on top. -/
theorem ofLines_append (lines others : List String) :
    Headers.ofLines (lines ++ others) = do
      let headers ← Headers.ofLines lines
      let more ← Headers.ofLines others
      return headers.withCredentials (.fixed more) := by
  simp only [Headers.ofLines, List.mapM_append]
  cases lines.mapM readHeader with
  | error error => rfl
  | ok entries =>
    cases others.mapM readHeader with
    | error error => rfl
    | ok more =>
      -- To merge the table of the second part is to put its entries one by one.
      change Except.ok (Table.ofList (entries ++ more)) =
        Except.ok (Table.merge (Table.ofList entries) (Table.ofList more))
      rw [Table.ofList_append, Table.merge_ofList]

/-! ## Tidy headers -/

/-- A header as lines write it: its name is not empty and holds no colon, and neither name nor
value has a blank at its ends. -/
@[mk_iff]
structure IsTidy (header : String × String) : Prop where
  name_ne_empty : header.1 ≠ ""
  colon_not_mem : ':' ∉ header.1.toList
  name_ends : HasNoBlankEnds header.1.toList
  value_ends : HasNoBlankEnds header.2.toList

instance (header : String × String) : Decidable (IsTidy header) :=
  decidable_of_iff _ (isTidy_iff header).symm

/-- Tidy headers with distinct names. -/
@[mk_iff]
structure Headers.AreTidy (headers : Headers) : Prop where
  distinct : headers.keys.Nodup
  tidy : ∀ header ∈ headers, IsTidy header

instance (headers : Headers) : Decidable headers.AreTidy :=
  decidable_of_iff _ (Headers.areTidy_iff headers).symm

theorem isTidy_of_readHeader {line : String} {header : String × String}
    (h : readHeader line = .ok header) : IsTidy header := by
  obtain ⟨before, behind, ⟨-, hcolon⟩, hname, rfl⟩ := readHeader_eq_ok_iff.1 h
  constructor
  · simpa using hname
  · intro hmem
    rw [String.toList_ofList] at hmem
    exact hcolon (mem_of_mem_trim hmem)
  · rw [String.toList_ofList]
    exact hasNoBlankEnds_trim before
  · rw [String.toList_ofList]
    exact hasNoBlankEnds_trim behind

/-- A tidy header is found again in its line. -/
theorem readHeader_writeHeader {header : String × String} (h : IsTidy header) :
    readHeader (writeHeader header) = .ok header := by
  have hline : (writeHeader header).toList =
      header.1.toList ++ ':' :: ' ' :: header.2.toList := by
    simp [writeHeader]
  have hname : trim header.1.toList = header.1.toList := trim_of_hasNoBlankEnds h.name_ends
  have hvalue : trim (' ' :: header.2.toList) = header.2.toList := by
    rw [trim_cons_of_isBlank (by decide), trim_of_hasNoBlankEnds h.value_ends]
  refine readHeader_eq_ok_iff.2 ⟨_, _, ⟨hline, h.colon_not_mem⟩, ?_, ?_⟩
  · rw [hname]
    simpa using h.name_ne_empty
  · rw [hname, hvalue, String.ofList_toList, String.ofList_toList]

theorem areTidy_of_ofLines {lines : List String} {headers : Headers}
    (h : Headers.ofLines lines = .ok headers) : headers.AreTidy := by
  obtain ⟨entries, hentries, rfl⟩ := ofLines_eq_ok_iff.1 h
  refine ⟨Table.nodup_keys_ofList entries, ?_⟩
  intro header hheader
  have hentry : header ∈ entries := Table.mem_of_mem_ofList hheader
  obtain ⟨line, -, hread⟩ := exists_mem_of_forall₂ (mapM_eq_ok_iff.1 hentries) hentry
  exact isTidy_of_readHeader hread

theorem ofLines_writeHeader {headers : Headers} (h : headers.AreTidy) :
    Headers.ofLines (headers.map writeHeader) = .ok headers := by
  have hread : (headers.map writeHeader).mapM readHeader = .ok headers := by
    rw [mapM_eq_ok_iff, List.forall₂_map_left_iff, List.forall₂_same]
    intro header hheader
    exact readHeader_writeHeader (h.tidy header hheader)
  exact ofLines_eq_ok_iff.2 ⟨headers, hread, Table.ofList_of_nodup h.distinct⟩

/-- **Lines make just the tidy headers.** Headers are what some lines write if and only if their
names are distinct, not empty and without a colon, and nothing in them has a blank at its ends.
These are also just the headers that are found again, in the same order, in their own lines. -/
theorem exists_ofLines_iff_areTidy (headers : Headers) :
    ((∃ lines, Headers.ofLines lines = .ok headers) ↔ headers.AreTidy) ∧
      (Headers.ofLines (headers.map writeHeader) = .ok headers ↔ headers.AreTidy) := by
  constructor
  · constructor
    · intro ⟨lines, hlines⟩
      exact areTidy_of_ofLines hlines
    · intro htidy
      exact ⟨headers.map writeHeader, ofLines_writeHeader htidy⟩
  · exact ⟨areTidy_of_ofLines, ofLines_writeHeader⟩

/-- Headers for a tenant, one with a colon in its value and one without a value. -/
def tenantHeaders : Headers :=
  [("X-Tenant", "a"), ("Authorization", "Basic abc:def"), ("X-Trace", "")]

theorem exists_ofLines_iff_areTidy_tenantHeaders :
    tenantHeaders.AreTidy ∧
      Headers.ofLines (tenantHeaders.map writeHeader) = .ok tenantHeaders := by
  have htidy : tenantHeaders.AreTidy := by decide +kernel
  exact ⟨htidy, (exists_ofLines_iff_areTidy tenantHeaders).2.2 htidy⟩

/-! ## Lines in two parts -/

theorem exists_error_ofLines_append_iff {lines others : List String} :
    (∃ error, Headers.ofLines (lines ++ others) = .error error) ↔
      (∃ error, Headers.ofLines lines = .error error) ∨
        ∃ error, Headers.ofLines others = .error error := by
  rw [ofLines_append]
  simp only [bind_eq_error_iff, pure_ne_error, and_false, exists_false, or_false]
  cases Headers.ofLines lines <;> simp

theorem ofLines_append_eq_ok_iff {lines others : List String} {headers : Headers} :
    Headers.ofLines (lines ++ others) = .ok headers ↔
      ∃ front back, Headers.ofLines lines = .ok front ∧ Headers.ofLines others = .ok back ∧
        headers = front.withCredentials (.fixed back) := by
  rw [ofLines_append]
  simp only [bind_eq_ok_iff, pure_eq_ok_iff, exists_and_left]

/-- **Layering is a monoid, and reading lines leads into it.** For headers with distinct names it
makes no difference, not even to their order, which of three layers are put together first. Empty
headers and no credentials are neutral, and headers on top of themselves change nothing. Lines in
two parts are refused just where one part is, for the first line that writes no header, and
otherwise they make the headers of the second part on top of those of the first. -/
theorem layering_assoc_and_ofLines_append {headers more : Headers}
    (hheaders : headers.keys.Nodup) (hmore : more.keys.Nodup) (credentials : Credentials)
    (lines others : List String) :
    ((headers.withCredentials credentials).keys.Nodup ∧
        (headers.withCredentials (.fixed more)).withCredentials credentials =
          headers.withCredentials (.fixed (more.withCredentials credentials)) ∧
        headers.withCredentials .none = headers ∧
        headers.withCredentials (.fixed headers) = headers ∧
        Headers.withCredentials [] (.fixed more) = more) ∧
      ((∃ error, Headers.ofLines (lines ++ others) = .error error) ↔
        (∃ error, Headers.ofLines lines = .error error) ∨
          ∃ error, Headers.ofLines others = .error error) ∧
      (∀ error, Headers.ofLines (lines ++ others) = .error error ↔
        IsFirst (fun line => ¬ NamesHeader line) (lines ++ others) error.line) ∧
      ∀ result, Headers.ofLines (lines ++ others) = .ok result ↔
        ∃ front back, Headers.ofLines lines = .ok front ∧ Headers.ofLines others = .ok back ∧
          result = front.withCredentials (.fixed back) := by
  have hlayers : (headers.withCredentials credentials).keys.Nodup :=
    Table.nodup_keys_merge hheaders credentials.headers
  refine ⟨⟨hlayers, withCredentials_assoc hmore headers credentials, rfl,
    withCredentials_self hheaders, empty_withCredentials hmore⟩,
    exists_error_ofLines_append_iff, ?_, ?_⟩
  · intro error
    exact ofLines_eq_error_iff
  · intro result
    exact ofLines_append_eq_ok_iff

/-- Headers of which one sets the tenant anew. -/
def tracedHeaders : Headers :=
  [("X-Span", "1"), ("X-Tenant", "b")]

theorem layering_assoc_and_ofLines_append_tracedHeaders :
    (tenantHeaders.keys.Nodup ∧ tracedHeaders.keys.Nodup) ∧
      (tenantHeaders.withCredentials (.fixed tracedHeaders)).withCredentials (.bearer "t") =
        tenantHeaders.withCredentials (.fixed (tracedHeaders.withCredentials (.bearer "t"))) ∧
      Headers.ofLines ([" X-Tenant : a"] ++ ["X-Span: 1", "X-Tenant:b"]) =
        .ok [("X-Tenant", "b"), ("X-Span", "1")] ∧
      Headers.ofLines (["X-Tenant: a", "X-Span"] ++ [": b"]) = .error ⟨"X-Span"⟩ := by
  have htenant : tenantHeaders.keys.Nodup := by decide +kernel
  have htraced : tracedHeaders.keys.Nodup := by decide +kernel
  obtain ⟨⟨-, hassoc, -⟩, -, -, hreads⟩ := layering_assoc_and_ofLines_append htenant htraced
    (.bearer "t") [" X-Tenant : a"] ["X-Span: 1", "X-Tenant:b"]
  obtain ⟨-, -, hfails, -⟩ := layering_assoc_and_ofLines_append htenant htraced
    (.bearer "t") ["X-Tenant: a", "X-Span"] [": b"]
  refine ⟨⟨htenant, htraced⟩, hassoc, (hreads _).2 ⟨_, tracedHeaders, rfl, rfl, rfl⟩, ?_⟩
  refine (hfails _).2 ⟨["X-Tenant: a"], [": b"], rfl, ?_, ?_⟩
  · exact (readHeader_eq_error_iff.1 rfl).1
  · intro line hline
    rw [List.mem_singleton.1 hline, not_not]
    exact exists_readHeader_iff.1 ⟨_, rfl⟩

end ResolverTypings.Service
