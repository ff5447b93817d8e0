import ResolverTypings.FileTree
import ResolverTypings.Proofs.Tables
import ResolverTypings.Proofs.Text.Utf8

/-!
# What files hold

A file tree is compared with another by the bytes of the files at all paths: directories
that come and go make no difference. Writing a file changes what stands at its path and
nothing else. In a proper tree a file stands alone, and what it holds is read from it with
line feeds for all line ends.
-/
namespace ResolverTypings.FileTree

/-- No file has come, gone or changed. -/
def SameFiles (before after : FileTree) : Prop :=
  ∀ path, after.bytes? path = before.bytes? path

/-- The file at a path holds a text in UTF-8. -/
def Holds (tree : FileTree) (path : Path) (text : String) : Prop :=
  tree.bytes? path = some (Text.Utf8.encode text)

/-- The file at one path holds a text, and every other file is as it was before. -/
structure Written (before : FileTree) (path : Path) (text : String) (after : FileTree) :
    Prop where
  holds : after.Holds path text
  others : ∀ other ≠ path, after.bytes? other = before.bytes? other

theorem SameFiles.refl (tree : FileTree) : SameFiles tree tree :=
  fun _ => rfl

/-- Only an entry of its own makes a file. -/
theorem bytes?_eq_some_iff {tree : FileTree} {path : Path} {bytes : List Nat} :
    tree.bytes? path = some bytes ↔ tree.entries.get? path = some (.file bytes) := by
  unfold bytes? find?
  cases hentry : tree.entries.get? path with
  | none => split <;> simp_all
  | some entry => cases entry <;> simp

/-- Nothing is a file where nothing is. -/
theorem isFile_empty (path : Path) : isFile {} path = false := by
  have h : find? {} path = none ∨ find? {} path = some .directory := by
    unfold find?
    cases path.isEmpty <;> simp [Table.get?, Table.keys]
  rcases h with h | h <;> simp [isFile, h]

theorem bytes?_put_of_ne {tree : FileTree} {path other : Path} (h : other ≠ path)
    (entry : Entry) : (tree.put path entry).bytes? other = tree.bytes? other := by
  ext bytes
  simp [bytes?_eq_some_iff, put, h.symm]

/-- A file that has been put somewhere is there, and every other one is as it was. -/
theorem written_put {before tree : FileTree} {path : Path} {text : String}
    (h : ∀ other ≠ path, tree.bytes? other = before.bytes? other) :
    Written before path text (tree.put path (.file (Text.Utf8.encode text))) where
  holds := by simp [Holds, bytes?]
  others other hother := (bytes?_put_of_ne hother _).trans (h other hother)

theorem isFile_eq_isSome (tree : FileTree) (path : Path) :
    tree.isFile path = (tree.bytes? path).isSome := by
  unfold isFile bytes?
  cases tree.find? path with
  | none => rfl
  | some entry => cases entry <;> rfl

theorem SameFiles.trans {first second third : FileTree} (h : SameFiles first second)
    (h' : SameFiles second third) : SameFiles first third :=
  fun path => (h' path).trans (h path)

theorem SameFiles.isFile_eq {before after : FileTree} (h : SameFiles before after) (path : Path) :
    after.isFile path = before.isFile path := by
  rw [isFile_eq_isSome, isFile_eq_isSome, h path]

/-- A directory may come where no file stands. -/
theorem sameFiles_put_directory {tree : FileTree} {path : Path} (h : tree.isFile path = false) :
    SameFiles tree (tree.put path .directory) := by
  intro other
  by_cases hother : other = path
  · subst hother
    have hnone : tree.bytes? other = none := by simpa [isFile_eq_isSome] using h
    rw [hnone, bytes?, find?_put]
  · exact bytes?_put_of_ne hother _

/-- What is put somewhere makes a directory of the paths above it only. -/
theorem isDirectory_put_of_not_isPrefix {tree : FileTree} {path other : Path}
    (h : ¬ path <+: other) (entry : Entry) :
    (tree.put other entry).isDirectory path = tree.isDirectory path := by
  have hne : other ≠ path := fun heq => h (heq ▸ List.prefix_refl path)
  have hkeys : Table.keys (tree.entries.put other entry) = tree.entries.keys ∨
      Table.keys (tree.entries.put other entry) = tree.entries.keys ++ [other] := by
    rw [Table.keys_put]
    split <;> simp
  have hfind : (tree.put other entry).find? path = tree.find? path := by
    unfold find? put
    rcases hkeys with hkeys | hkeys <;> simp [hkeys, hne, h]
  rw [isDirectory, isDirectory, hfind]

/-! ## Reading -/

/-- A file that holds a text is read as that text with line feeds for all line ends. -/
theorem readText_of_holds {tree : FileTree} {path : Path} {text : String}
    (h : tree.Holds path text) :
    tree.readText path = .ok (String.ofList (Text.unifyLineEnds text.toList)) := by
  have hbytes : tree.bytes? path = some (Text.Utf8.encode text) := h
  rw [readText, hbytes, Option.getD_some, Text.Utf8.decode_encode]
  rfl

/-! ## Places -/

theorem foldl_step_of_follow {tree : FileTree} {path found : Path} {names : List String}
    (h : tree.follow path names = some found) : names.foldl Path.step path = found := by
  induction names generalizing path with
  | nil =>
    cases h
    rfl
  | cons name names ih =>
    rw [follow] at h
    split at h
    · exact ih h
    · cases h

/-- A text leads to the path that it means, if it leads anywhere. -/
theorem resolve_of_locate? {tree : FileTree} {base found : Path} {text : String}
    (h : tree.locate? base text = some found) : Path.resolve base text = found := by
  unfold locate? at h
  split at h
  · cases h
  · exact foldl_step_of_follow h

/-- A tree as a disk holds it: with one entry for a path, and with nothing below a file. -/
structure IsProper (tree : FileTree) : Prop where
  distinct : tree.entries.keys.Nodup
  flat : ∀ path bytes, tree.bytes? path = some bytes →
    ∀ other ∈ tree.entries.keys, path <+: other → other = path

theorem filesBelow_eq_nil {entries : Table Path Entry} {path : Path}
    (h : ∀ entry ∈ entries, ¬ path <+: entry.1) : filesBelow { entries } path = [] := by
  refine List.filterMap_eq_nil_iff.2 ?_
  rintro ⟨found, entry⟩ hentry
  have habove := h _ hentry
  cases entry <;> simp [habove]

/-- At or below a file stands that file alone. -/
theorem filesBelow_of_isProper {tree : FileTree} (h : tree.IsProper) {path : Path}
    {bytes : List Nat} (hbytes : tree.bytes? path = some bytes) : tree.filesBelow path = [path] := by
  obtain ⟨front, back, hentries⟩ :=
    List.append_of_mem (Table.mem_of_get? (bytes?_eq_some_iff.1 hbytes))
  have hflat := h.flat path bytes hbytes
  have hdistinct := h.distinct
  rw [hentries] at hflat hdistinct
  have hothers : ∀ entry ∈ front ++ back, ¬ path <+: entry.1 := by
    intro entry hentry habove
    have hkey : entry.1 ∈ Table.keys (front ++ (path, .file bytes) :: back) := by
      refine List.mem_map_of_mem ?_
      simp only [List.mem_append, List.mem_cons] at hentry ⊢
      exact hentry.imp_right .inr
    have hpath := hflat _ hkey habove
    simp only [Table.keys, List.map_append, List.map_cons, List.nodup_append, List.nodup_cons,
      List.mem_map, List.mem_cons] at hdistinct
    rcases List.mem_append.1 hentry with hfront | hback
    · exact hdistinct.2.2 _ ⟨entry, hfront, hpath⟩ _ (.inl rfl) rfl
    · exact hdistinct.2.1.1 ⟨entry, hback, hpath⟩
  have hsplit : tree.filesBelow path = filesBelow { entries := front } path ++
      path :: filesBelow { entries := back } path := by
    simp [filesBelow, hentries]
  rw [hsplit, filesBelow_eq_nil fun entry hentry => hothers entry (List.mem_append_left _ hentry),
    filesBelow_eq_nil fun entry hentry => hothers entry (List.mem_append_right _ hentry)]
  rfl

end ResolverTypings.FileTree
