import ResolverTypings.Command.Run
import ResolverTypings.Proofs.FileTrees
import ResolverTypings.Proofs.Sequences
import ResolverTypings.Proofs.Text.RawTexts

/-!
# Writing the output

The output file can be opened just where its path is writable, and all files stay as they are
otherwise. The text is turned into bytes behind that: a text without surrogates is then what the
file holds, and a text with one leaves the file empty.
-/
namespace ResolverTypings.Command

open Text (RawText)

/-- A file can be written at a path: the names are short enough, no file stands where a
directory has to be, and no directory where the file has to be. -/
structure Writable (tree : FileTree) (path : Path) : Prop where
  short : path.text.utf8ByteSize ≤ maxPathBytes
  shortNames : ∀ name ∈ path, name.utf8ByteSize ≤ maxNameBytes
  noFileAbove : ∀ above ≠ [], above <+: path.dropLast → tree.isFile above = false
  notDirectory : tree.isDirectory path = false

/-! ## Directories -/

/-- The files as an attempt leaves them. -/
def leftBy : Except FailedWrite FileTree → FileTree
  | .ok tree => tree
  | .error write => write.left

theorem leftBy_eq_of_ok {attempt : Except FailedWrite FileTree} {tree : FileTree}
    (h : attempt = .ok tree) : leftBy attempt = tree := by
  rw [h, leftBy]

/-- Directories that are made, all or some, change no file. -/
theorem sameFiles_makeDirectories (tree : FileTree) (above : Path) (names : List String) :
    tree.SameFiles (leftBy (makeDirectories tree above names)) := by
  fun_induction makeDirectories tree above names with
  | case1 | case2 | case3 => exact .refl _
  | case4 _ _ _ _ _ _ _ _ ih => exact ih
  | case5 tree _ _ _ path _ hfile _ ih =>
    have hnew : tree.SameFiles (tree.put path .directory) :=
      FileTree.sameFiles_put_directory (by simpa using hfile)
    exact hnew.trans ih

/-- No file stands at the steps from a path down to names. -/
def IsFree (tree : FileTree) (above : Path) (names : List String) : Prop :=
  ∀ front ≠ [], front <+: names → tree.isFile (above ++ front) = false

theorem isFree_nil (tree : FileTree) (above : Path) : IsFree tree above [] :=
  fun _ hne hfront => absurd (List.prefix_nil.1 hfront) hne

theorem isFree_cons {tree : FileTree} {above : Path} {name : String} {rest : List String} :
    IsFree tree above (name :: rest) ↔
      tree.isFile (above ++ [name]) = false ∧ IsFree tree (above ++ [name]) rest := by
  simp only [IsFree, List.append_assoc, List.singleton_append]
  constructor
  · intro h
    exact ⟨h [name] (by simp) (by simp), fun front _ hfront => h (name :: front) (by simp)
      (List.cons_prefix_cons.2 ⟨rfl, hfront⟩)⟩
  · rintro ⟨hname, hrest⟩ (_ | ⟨first, front⟩) hne hfront
    · exact absurd rfl hne
    · obtain ⟨rfl, hbehind⟩ := List.cons_prefix_cons.1 hfront
      by_cases hempty : front = []
      · rwa [hempty]
      · exact hrest front hempty hbehind

theorem isFree_iff_of_sameFiles {before after : FileTree} (h : before.SameFiles after)
    {above : Path} {names : List String} :
    IsFree after above names ↔ IsFree before above names := by
  simp only [IsFree, h.isFile_eq]

/-- Directories are made unless one of their names is too long or a file stands in their way. -/
theorem exists_makeDirectories_iff {tree : FileTree} {above : Path} {names : List String} :
    (∃ ready, makeDirectories tree above names = .ok ready) ↔
      (∀ name ∈ names, name.utf8ByteSize ≤ maxNameBytes) ∧ IsFree tree above names := by
  fun_induction makeDirectories tree above names with
  | case1 => simp [pure_eq_ok_iff, isFree_nil]
  | case2 _ _ _ _ hlong => simp [throw_eq_error, Nat.not_le.2 hlong]
  | case3 _ _ _ _ path _ hfile => simp [throw_eq_error, isFree_cons, path, hfile]
  | case4 _ _ _ _ path hshort hfile _ ih =>
    have hfile := Bool.eq_false_iff.2 hfile
    have hshort := Nat.le_of_not_lt hshort
    rw [ih, isFree_cons, List.forall_mem_cons]
    simp [path, hfile, hshort]
  | case5 _ _ _ _ path hshort hfile _ ih =>
    have hfile := Bool.eq_false_iff.2 hfile
    have hshort := Nat.le_of_not_lt hshort
    rw [ih, isFree_iff_of_sameFiles (FileTree.sameFiles_put_directory hfile), isFree_cons,
      List.forall_mem_cons]
    simp [path, hfile, hshort]

/-- A path below the directories that are made is a directory only if it was one before. -/
theorem isDirectory_of_makeDirectories {tree ready : FileTree} {above path : Path}
    {names : List String} (h : makeDirectories tree above names = .ok ready)
    (hbelow : (above ++ names).length < path.length) :
    ready.isDirectory path = tree.isDirectory path := by
  fun_induction makeDirectories tree above names with
  | case1 =>
    cases h
    rfl
  | case2 | case3 => cases h
  | case4 _ _ _ _ made _ _ _ ih => exact ih h (by simpa [made] using hbelow)
  | case5 tree above name rest made _ _ _ ih =>
    have hnot : ¬ path <+: made := by
      intro hfront
      have hlength := hfront.length_le
      simp [made] at hlength hbelow
      omega
    rw [ih h (by simpa [made] using hbelow), FileTree.isDirectory_put_of_not_isPrefix hnot]

/-! ## Opening -/

theorem text_append (above : Path) (name : String) :
    Path.text (above ++ [name]) = Path.text above ++ ("/" ++ name) := by
  simp [Path.text, String.join_append]

theorem utf8ByteSize_text_dropLast_le (path : Path) :
    (Path.text path.dropLast).utf8ByteSize ≤ path.text.utf8ByteSize := by
  rcases path.eq_nil_or_concat' with rfl | ⟨above, name, rfl⟩
  · exact Nat.le_refl _
  · rw [List.dropLast_concat, text_append, String.utf8ByteSize_append]
    exact Nat.le_add_right _ _

theorem openEmpty_eq_ok_iff {tree opened : FileTree} {path : Path} :
    openEmpty tree path = .ok opened ↔ path.text.utf8ByteSize ≤ maxPathBytes ∧
      path.baseName.utf8ByteSize ≤ maxNameBytes ∧ tree.isDirectory path = false ∧
      opened = tree.put path (.file []) := by
  unfold openEmpty
  split_ifs with hlong hdirectory
  · refine iff_of_false (by rintro ⟨⟩) ?_
    omega
  · exact iff_of_false (by rintro ⟨⟩) (by simp [hdirectory])
  · simp only [not_or, Nat.not_lt] at hlong
    simp [pure_eq_ok_iff, hlong, hdirectory]

/-- The directories of a file do not make one of the file itself. -/
theorem isDirectory_ready {tree ready : FileTree} {path : Path}
    (h : makeDirectories tree [] path.dropLast = .ok ready) :
    ready.isDirectory path = tree.isDirectory path := by
  rcases path.eq_nil_or_concat' with rfl | ⟨above, name, rfl⟩
  · cases h
    rfl
  · exact isDirectory_of_makeDirectories h (by simp)

theorem openOutput_eq_ok_iff {tree opened : FileTree} {path : Path} :
    openOutput tree path = .ok opened ↔ ∃ ready,
      makeDirectories tree [] path.dropLast = .ok ready ∧ openEmpty ready path = .ok opened := by
  unfold openOutput
  split_ifs with hlong
  · refine iff_of_false (by rintro ⟨⟩) ?_
    rintro ⟨ready, -, hopened⟩
    have hshort := (openEmpty_eq_ok_iff.1 hopened).1
    exact absurd hlong (Nat.not_lt.2 ((utf8ByteSize_text_dropLast_le path).trans hshort))
  · exact bind_eq_ok_iff

/-- The output can be opened just where it is writable. -/
theorem exists_openOutput_iff {tree : FileTree} {path : Path} :
    (∃ opened, openOutput tree path = .ok opened) ↔ Writable tree path := by
  have hnames : (∀ name ∈ path, name.utf8ByteSize ≤ maxNameBytes) ↔
      (∀ name ∈ path.dropLast, name.utf8ByteSize ≤ maxNameBytes) ∧
        path.baseName.utf8ByteSize ≤ maxNameBytes := by
    rcases path.eq_nil_or_concat' with rfl | ⟨above, name, rfl⟩
    · simp [Path.baseName]
    · simp [Path.baseName, or_imp, forall_and]
  simp only [openOutput_eq_ok_iff, openEmpty_eq_ok_iff]
  constructor
  · rintro ⟨opened, ready, hready, hshort, hbase, hdirectory, -⟩
    obtain ⟨habove, hfree⟩ := exists_makeDirectories_iff.1 ⟨ready, hready⟩
    exact ⟨hshort, hnames.2 ⟨habove, hbase⟩, fun front hne hfront => hfree front hne hfront,
      (isDirectory_ready hready).symm.trans hdirectory⟩
  · rintro ⟨hshort, hshortNames, hnoFile, hdirectory⟩
    obtain ⟨habove, hbase⟩ := hnames.1 hshortNames
    have hfree : IsFree tree [] path.dropLast := hnoFile
    obtain ⟨ready, hready⟩ := exists_makeDirectories_iff.2 ⟨habove, hfree⟩
    exact ⟨_, ready, hready, hshort, hbase, (isDirectory_ready hready).trans hdirectory, rfl⟩

/-- Once the output has been opened it is there and holds nothing. -/
theorem written_of_openOutput {tree opened : FileTree} {path : Path}
    (h : openOutput tree path = .ok opened) : tree.Written path "" opened := by
  obtain ⟨ready, hready, hopened⟩ := openOutput_eq_ok_iff.1 h
  obtain ⟨-, -, -, rfl⟩ := openEmpty_eq_ok_iff.1 hopened
  have hsame := sameFiles_makeDirectories tree [] path.dropLast
  rw [leftBy_eq_of_ok hready] at hsame
  have hempty : Text.Utf8.encode "" = [] := by decide +kernel
  rw [← hempty]
  exact FileTree.written_put fun other _ => hsame other

section
variable {tree : FileTree} {path : Path}

/-- A text is written where the output is writable. -/
theorem exists_writeOutput_of_writable (h : Writable tree path) (text : String) :
    ∃ after, writeOutput tree path text = .ok after ∧ tree.Written path text after := by
  obtain ⟨opened, hopened⟩ := exists_openOutput_iff.2 h
  refine ⟨opened.put path (.file (Text.Utf8.encode text)), ?_, ?_⟩
  · simp [writeOutput, hopened]
  · exact FileTree.written_put (written_of_openOutput hopened).others

/-- A text with a surrogate is not written, but the output is lost that was there before. -/
theorem exists_writeOutput_of_surrogate (h : Writable tree path) {text : RawText}
    (htext : ¬ text.IsUnbroken) : ∃ left,
      writeOutput tree path text = .error ⟨.surrogate, left⟩ ∧ tree.Written path "" left := by
  obtain ⟨opened, hopened⟩ := exists_openOutput_iff.2 h
  have hbytes := Text.Utf8.encode?_eq_none_iff.2 htext
  refine ⟨opened, ?_, written_of_openOutput hopened⟩
  rw [writeOutput, hopened]
  simp only [hbytes]
  rfl

end

end ResolverTypings.Command
