import Mathlib.Data.List.TakeWhile
import ResolverTypings.Proofs.Text.RawTexts
import ResolverTypings.Text.Blank
import ResolverTypings.Text.Lines

/-!
# Words and blanks

What a reader of tokens sees of a text at a time is its first word: the characters up to the
first blank. Two texts that differ in their blanks only start with the same word, and go on
doing so behind any part of it. The texts compared may also end in different ways, as long
as both ends start blank.
-/
namespace ResolverTypings.Text

/-! ## The first word -/

theorem isBlank_of_isLineEnd {c : Char} (h : isLineEnd c) : isBlank c := by
  simp only [isLineEnd, Bool.or_eq_true, beq_iff_eq] at h
  rcases h with rfl | rfl <;> rfl

/-- The first word of a text: what stands before its first blank. -/
def word (cs : List Char) : List Char :=
  cs.takeWhile (!isBlank ·)

/-- A text that starts with a blank, or holds nothing. -/
def StartsBlank (cs : List Char) : Prop :=
  ∀ c ∈ cs.head?, isBlank c

@[simp] theorem startsBlank_nil : StartsBlank [] := by
  simp [StartsBlank]

@[simp] theorem startsBlank_cons {c : Char} {cs : List Char} :
    StartsBlank (c :: cs) ↔ isBlank c := by
  simp [StartsBlank]

theorem StartsBlank.head?_ne {cs : List Char} (h : StartsBlank cs) {c : Char}
    (hc : isBlank c = false) : cs.head? ≠ some c := by
  intro hhead
  rw [h c hhead] at hc
  cases hc

theorem word_cons {c : Char} (hc : isBlank c = false) (cs : List Char) :
    word (c :: cs) = c :: word cs := by
  simp [word, hc]

theorem word_eq_nil_iff {cs : List Char} : word cs = [] ↔ StartsBlank cs := by
  cases cs with
  | nil => simp [word, StartsBlank]
  | cons c cs => cases h : isBlank c <;> simp [word, StartsBlank, h]

theorem length_word_cons {c : Char} (hc : isBlank c = false) (cs : List Char) :
    (word (c :: cs)).length = (word cs).length + 1 := by
  rw [word_cons hc, List.length_cons]

/-- Only what is no blank belongs to the first word. -/
theorem le_length_word_of_succ {c : Char} {cs : List Char} {n : Nat}
    (h : n + 1 ≤ (word (c :: cs)).length) : isBlank c = false ∧ n ≤ (word cs).length := by
  cases hc : isBlank c with
  | true => simp [word, hc] at h
  | false =>
    rw [length_word_cons hc] at h
    exact ⟨rfl, Nat.le_of_succ_le_succ h⟩

/-- Texts with one first word both start blank, or with one character that is none. -/
theorem word_eq_cases {cs ds : List Char} (h : word cs = word ds) :
    (StartsBlank cs ∧ StartsBlank ds) ∨ ∃ c cs' ds', cs = c :: cs' ∧ ds = c :: ds' ∧
      isBlank c = false ∧ word cs' = word ds' := by
  have hsplit : ∀ {es w : List Char} {c : Char}, word es = c :: w →
      ∃ es', es = c :: es' ∧ isBlank c = false ∧ word es' = w := by
    intro es w c hes
    cases es with
    | nil => simp [word] at hes
    | cons d es =>
      cases hd : isBlank d with
      | true => simp [word, hd] at hes
      | false =>
        rw [word_cons hd] at hes
        cases hes
        exact ⟨es, rfl, hd, rfl⟩
  cases hcs : word cs with
  | nil => exact .inl ⟨word_eq_nil_iff.1 hcs, word_eq_nil_iff.1 (h ▸ hcs)⟩
  | cons c w =>
    obtain ⟨cs', rfl, hc, hcs'⟩ := hsplit hcs
    obtain ⟨ds', rfl, -, hds'⟩ := hsplit (h ▸ hcs)
    exact .inr ⟨c, cs', ds', rfl, rfl, hc, hcs'.trans hds'.symm⟩

theorem exists_cons_of_word {c : Char} {cs ds : List Char} (h : word (c :: cs) = word ds)
    (hc : isBlank c = false) : ∃ ds', ds = c :: ds' ∧ word cs = word ds' := by
  rcases word_eq_cases h with ⟨hblank, -⟩ | ⟨_, _, ds', hcs, hds, -, hrest⟩
  · exact absurd rfl (hblank.head?_ne hc)
  · cases hcs
    exact ⟨ds', hds, hrest⟩

theorem head?_eq_of_word {cs ds : List Char} (h : word cs = word ds) {c : Char}
    (hc : isBlank c = false) : cs.head? = some c ↔ ds.head? = some c := by
  rcases word_eq_cases h with ⟨hcs, hds⟩ | ⟨c, cs', ds', rfl, rfl, -, -⟩
  · exact iff_of_false (hcs.head?_ne hc) (hds.head?_ne hc)
  · rfl

theorem word_drop_eq {cs ds : List Char} (h : word cs = word ds) {n : Nat}
    (hn : n ≤ (word cs).length) : word (cs.drop n) = word (ds.drop n) := by
  induction n generalizing cs ds with
  | zero => exact h
  | succ n ih =>
    rcases word_eq_cases h with ⟨hblank, -⟩ | ⟨c, cs', ds', rfl, rfl, hc, hrest⟩
    · simp [word_eq_nil_iff.2 hblank] at hn
    · rw [length_word_cons hc] at hn
      exact ih hrest (Nat.le_of_succ_le_succ hn)

theorem take_eq_of_word {cs ds : List Char} (h : word cs = word ds) {n : Nat}
    (hn : n ≤ (word cs).length) : cs.take n = ds.take n := by
  induction n generalizing cs ds with
  | zero => simp
  | succ n ih =>
    rcases word_eq_cases h with ⟨hblank, -⟩ | ⟨c, cs', ds', rfl, rfl, hc, hrest⟩
    · simp [word_eq_nil_iff.2 hblank] at hn
    · rw [length_word_cons hc] at hn
      rw [List.take_succ_cons, List.take_succ_cons, ih hrest (Nat.le_of_succ_le_succ hn)]

theorem length_word_drop {cs : List Char} {n : Nat} (hn : n ≤ (word cs).length) :
    (word (cs.drop n)).length = (word cs).length - n := by
  induction n generalizing cs with
  | zero => rfl
  | succ n ih =>
    rcases cs with _ | ⟨c, cs⟩
    · simp [word] at hn
    · cases hc : isBlank c with
      | true => simp [word, hc] at hn
      | false =>
        rw [length_word_cons hc] at hn ⊢
        rw [List.drop_succ_cons, ih (by omega)]
        omega

/-- Characters in front of which none is blank belong to the first word. -/
theorem le_length_word {cs : List Char} {n : Nat} (hn : n ≤ cs.length)
    (h : ∀ c ∈ cs.take n, isBlank c = false) : n ≤ (word cs).length := by
  induction n generalizing cs with
  | zero => exact Nat.zero_le _
  | succ n ih =>
    cases cs with
    | nil => cases hn
    | cons c cs =>
      simp only [List.take_succ_cons, List.mem_cons, forall_eq_or_imp] at h
      rw [length_word_cons h.1]
      exact Nat.succ_le_succ (ih (Nat.le_of_succ_le_succ hn) h.2)

section Property

variable {property : Char → Bool} (hproperty : ∀ c, isBlank c → property c = false)

include hproperty

theorem takeWhile_word (cs : List Char) : cs.takeWhile property = (word cs).takeWhile property := by
  induction cs with
  | nil => rfl
  | cons c cs ih =>
    cases hc : isBlank c with
    | true => simp [word, hc, hproperty c hc]
    | false => rw [word_cons hc, List.takeWhile_cons, List.takeWhile_cons, ih]

/-- Characters with a property that no blank has are looked for in the first word alone. -/
theorem takeWhile_eq_of_word {cs ds : List Char} (h : word cs = word ds) :
    cs.takeWhile property = ds.takeWhile property := by
  rw [takeWhile_word hproperty cs, takeWhile_word hproperty ds, h]

theorem length_takeWhile_le_word (cs : List Char) :
    (cs.takeWhile property).length ≤ (word cs).length := by
  rw [takeWhile_word hproperty]
  exact (List.takeWhile_sublist _).length_le

end Property

/-- A front without blanks is looked for in the first word alone. -/
theorem isPrefixOf_word {front cs : List Char} (hfront : ∀ c ∈ front, isBlank c = false) :
    front.isPrefixOf cs = front.isPrefixOf (word cs) := by
  induction front generalizing cs with
  | nil => simp
  | cons f front ih =>
    have hf := hfront f (by simp)
    rcases cs with _ | ⟨c, cs⟩
    · rfl
    · cases hc : isBlank c with
      | true =>
        have hne : f ≠ c := by
          rintro rfl
          rw [hf] at hc
          cases hc
        simp [word, hc, hne, List.isPrefixOf]
      | false =>
        rw [word_cons hc, List.isPrefixOf, List.isPrefixOf,
          ih fun d hd => hfront d (List.mem_cons_of_mem _ hd)]

/-- Texts with the same first word begin with the same fronts without blanks. -/
theorem isPrefix_iff_of_word_eq {front cs ds : List Char}
    (hfront : ∀ c ∈ front, isBlank c = false) (h : word cs = word ds) :
    front <+: cs ↔ front <+: ds := by
  rw [← List.isPrefixOf_iff_prefix, ← List.isPrefixOf_iff_prefix, isPrefixOf_word hfront, h,
    ← isPrefixOf_word hfront]

theorem length_le_word_of_isPrefixOf {front cs : List Char}
    (hfront : ∀ c ∈ front, isBlank c = false) (h : front.isPrefixOf cs) :
    front.length ≤ (word cs).length := by
  rw [isPrefixOf_word hfront, List.isPrefixOf_iff_prefix] at h
  exact h.length_le

/-! ## Other blanks -/

section Respaced

variable {swap : Char → Char → Prop} {runs : Prop} {tail tail' : List Char}

/-- The second text is the first with other blanks and another tail: a blank may be swapped
for another as `swap` says, and with `runs` a run of blanks may become longer or shorter, but
stays one. -/
inductive Respaced (swap : Char → Char → Prop) (runs : Prop) (tail tail' : List Char) :
    List Char → List Char → Prop where
  | done : Respaced swap runs tail tail' tail tail'
  | same {c : Char} {cs ds : List Char} : isBlank c = false →
      Respaced swap runs tail tail' cs ds → Respaced swap runs tail tail' (c :: cs) (c :: ds)
  | swapped {b b' : Char} {cs ds : List Char} : isBlank b → isBlank b' → swap b b' →
      Respaced swap runs tail tail' cs ds → Respaced swap runs tail tail' (b :: cs) (b' :: ds)
  | shorter {b b' : Char} {cs ds : List Char} : runs → isBlank b → isBlank b' → swap b b' →
      Respaced swap runs tail tail' cs (b' :: ds) →
      Respaced swap runs tail tail' (b :: cs) (b' :: ds)
  | longer {b b' : Char} {cs ds : List Char} : runs → isBlank b → isBlank b' → swap b b' →
      Respaced swap runs tail tail' (b :: cs) ds →
      Respaced swap runs tail tail' (b :: cs) (b' :: ds)

namespace Respaced

theorem symm {cs ds : List Char} (h : Respaced swap runs tail tail' cs ds) :
    Respaced (fun b b' => swap b' b) runs tail' tail ds cs := by
  induction h with
  | done => exact .done
  | same hc _ ih => exact .same hc ih
  | swapped hb hb' hswap _ ih => exact .swapped hb' hb hswap ih
  | shorter hruns hb hb' hswap _ ih => exact .longer hruns hb' hb hswap ih
  | longer hruns hb hb' hswap _ ih => exact .shorter hruns hb' hb hswap ih

/-- With nothing to swap, all that can be done is to put another tail behind the text. -/
theorem eq_append_iff {cs ds : List Char} :
    Respaced (· = ·) False [] tail cs ds ↔ ds = cs ++ tail := by
  constructor
  · intro h
    generalize hnil : ([] : List Char) = front at h
    induction h with
    | done => subst hnil; rfl
    | same _ _ ih => rw [ih]; rfl
    | swapped _ _ hswap _ ih => rw [ih, hswap]; rfl
    | shorter hruns => exact hruns.elim
    | longer hruns => exact hruns.elim
  · rintro rfl
    induction cs with
    | nil => exact .done
    | cons c cs ih =>
      cases hc : isBlank c with
      | true => exact .swapped hc hc rfl ih
      | false => exact .same hc ih

theorem nil {ds : List Char} (h : Respaced swap runs tail tail' [] ds) : tail = [] ∧ ds = tail' := by
  generalize hnil : ([] : List Char) = cs at h
  cases h with
  | done => exact ⟨rfl, rfl⟩
  | same | swapped | shorter | longer => cases hnil

/-- What follows both texts belongs to the tails. -/
theorem append {cs ds : List Char} (h : Respaced swap runs tail tail' cs ds) (more : List Char) :
    Respaced swap runs (tail ++ more) (tail' ++ more) (cs ++ more) (ds ++ more) := by
  induction h with
  | done => exact .done
  | same hc _ ih => exact .same hc ih
  | swapped hb hb' hswap _ ih => exact .swapped hb hb' hswap ih
  | shorter hruns hb hb' hswap _ ih => exact .shorter hruns hb hb' hswap ih
  | longer hruns hb hb' hswap _ ih => exact .longer hruns hb hb' hswap ih

theorem word_eq {cs ds : List Char} (h : Respaced swap runs tail tail' cs ds)
    (htail : StartsBlank tail) (htail' : StartsBlank tail') : word cs = word ds := by
  induction h with
  | done => rw [word_eq_nil_iff.2 htail, word_eq_nil_iff.2 htail']
  | same hc _ ih => rw [word_cons hc, word_cons hc, ih]
  | swapped hb hb' => simp [word, hb, hb']
  | shorter _ hb hb' => simp [word, hb, hb']
  | longer _ hb hb' => simp [word, hb, hb']

theorem cons {c : Char} {cs ds : List Char} (h : Respaced swap runs tail tail' (c :: cs) ds)
    (htail : StartsBlank tail) (hc : isBlank c = false) :
    ∃ ds', ds = c :: ds' ∧ Respaced swap runs tail tail' cs ds' := by
  generalize hes : c :: cs = es at h
  have hne : ∀ {b : Char}, isBlank b → c ≠ b := by
    rintro b hb rfl
    rw [hc] at hb
    cases hb
  cases h with
  | done => exact absurd (hes ▸ rfl) (htail.head?_ne hc)
  | same _ h =>
    cases hes
    exact ⟨_, rfl, h⟩
  | swapped hb => exact absurd (List.cons.inj hes).1 (hne hb)
  | shorter _ hb => exact absurd (List.cons.inj hes).1 (hne hb)
  | longer _ hb => exact absurd (List.cons.inj hes).1 (hne hb)

/-- What stands behind a part of the first word is respaced as well. -/
theorem drop {cs ds : List Char} (h : Respaced swap runs tail tail' cs ds)
    (htail : StartsBlank tail) {n : Nat} (hn : n ≤ (word cs).length) :
    Respaced swap runs tail tail' (cs.drop n) (ds.drop n) := by
  induction n generalizing cs ds with
  | zero => exact h
  | succ n ih =>
    rcases word_eq_cases (rfl : word cs = word cs) with ⟨hblank, -⟩ | ⟨c, cs, _, rfl, -, hc, -⟩
    · simp [word_eq_nil_iff.2 hblank] at hn
    · obtain ⟨ds, rfl, hrest⟩ := h.cons htail hc
      rw [length_word_cons hc] at hn
      exact ih hrest (Nat.le_of_succ_le_succ hn)

/-- What passes on from the text behind a blank to the same text with a blank in front
passes on to the whole run of blanks. -/
theorem of_blank {P : List Char → Prop} {b : Char} {cs ds : List Char}
    (h : Respaced swap runs tail tail' (b :: cs) ds) (hb : isBlank b)
    (hdone : tail = b :: cs → P tail')
    (hrest : ∀ ds, Respaced swap runs tail tail' cs ds → P ds)
    (hcons : ∀ b' ds, isBlank b' → swap b b' → P ds → P (b' :: ds)) : P ds := by
  generalize hes : b :: cs = es at h
  induction h with
  | done => exact hdone hes.symm
  | same hc =>
    rw [(List.cons.inj hes).1, hc] at hb
    cases hb
  | swapped _ hb' hswap h =>
    cases hes
    exact hcons _ _ hb' hswap (hrest _ h)
  | shorter _ _ _ _ h =>
    cases hes
    exact hrest _ h
  | longer _ _ hb' hswap _ ih =>
    have hP := ih hes
    cases hes
    exact hcons _ _ hb' hswap hP

end Respaced
end Respaced

/-! ## Single spaces -/

/-- Words with one space between two of them. -/
def joined (cs : List Char) : List Char :=
  [' '].intercalate (words isBlank cs)

theorem words_ofChars (cs : List Char) :
    words (·.satisfies isBlank) (RawText.ofChars cs) =
      (words isBlank cs).map RawText.ofChars := by
  fun_induction words isBlank cs <;> simp_all [words, CodePoint.satisfies]

theorem singleSpaced_ofChars (cs : List Char) :
    singleSpaced (RawText.ofChars cs) = RawText.ofChars (joined cs) := by
  rw [singleSpaced, words_ofChars]
  exact RawText.intercalate_ofChars [' '] (words isBlank cs)

theorem singleSpaced_ofString (text : String) :
    singleSpaced text = RawText.ofString (String.ofList (joined text.toList)) := by
  rw [RawText.ofString, singleSpaced_ofChars, RawText.ofString, String.toList_ofList]

theorem words_cons_of_isBlank {c : Char} (hc : isBlank c) (cs : List Char) :
    words isBlank (c :: cs) = words isBlank cs := by
  cases cs <;> simp [words, hc]

theorem words_append_of_isBlank {lead : List Char} (hlead : ∀ c ∈ lead, isBlank c)
    (cs : List Char) : words isBlank (lead ++ cs) = words isBlank cs := by
  induction lead with
  | nil => rfl
  | cons c lead ih =>
    obtain ⟨hc, hlead⟩ := List.forall_mem_cons.1 hlead
    rw [List.cons_append, words_cons_of_isBlank hc, ih hlead]

theorem words_cons_ne_nil {c : Char} (hc : isBlank c = false) (cs : List Char) :
    words isBlank (c :: cs) ≠ [] := by
  rcases cs with _ | ⟨d, cs⟩
  · simp [words, hc]
  · rw [words, if_neg (by simp [hc])]
    split
    · simp
    · split <;> simp

/-- The first word grows as long as no blank comes in between. -/
theorem joined_cons_cons {c d : Char} (hc : isBlank c = false) (hd : isBlank d = false)
    (cs : List Char) : joined (c :: d :: cs) = c :: joined (d :: cs) := by
  obtain ⟨w, ws, hwords⟩ := List.exists_cons_of_ne_nil (words_cons_ne_nil hd cs)
  have hmore : words isBlank (c :: d :: cs) = (c :: w) :: ws := by
    simp [words, hc, hd, hwords]
  rw [joined, joined, hmore, hwords]
  cases ws <;> simp

/-- Behind a blank the next word starts, if there is one. -/
theorem joined_cons_blank {c b : Char} (hc : isBlank c = false) (hb : isBlank b)
    (cs : List Char) : joined (c :: b :: cs) =
      if words isBlank cs = [] then [c] else c :: ' ' :: joined cs := by
  have hmore : words isBlank (c :: b :: cs) = [c] :: words isBlank cs := by
    rw [← words_cons_of_isBlank hb cs]
    simp [words, hc, hb]
  rw [joined, joined, hmore]
  cases words isBlank cs <;> simp

/-- Any blank is swapped for a space. -/
abbrev ToSpace (_ b' : Char) : Prop :=
  b' = ' '

/-- No other blank is left than spaces. -/
theorem Respaced.eq_space {tail tail' cs ds : List Char}
    (h : Respaced ToSpace True tail tail' cs ds) (htail' : ∀ c ∈ tail', isBlank c → c = ' ') :
    ∀ c ∈ ds, isBlank c → c = ' ' := by
  induction h with
  | done => exact htail'
  | same hc _ ih => exact List.forall_mem_cons.2 ⟨fun hblank => by simp [hblank] at hc, ih⟩
  | swapped _ _ hswap _ ih => exact List.forall_mem_cons.2 ⟨fun _ => hswap, ih⟩
  | shorter _ _ _ _ _ ih => exact ih
  | longer _ _ _ hswap _ ih => exact List.forall_mem_cons.2 ⟨fun _ => hswap, ih⟩

/-- A run of blanks in front becomes one space. -/
theorem Respaced.blanks {b : Char} {lead cs ds tail tail' : List Char}
    (hlead : ∀ c ∈ b :: lead, isBlank c) (h : Respaced ToSpace True tail tail' cs ds) :
    Respaced ToSpace True tail tail' (b :: lead ++ cs) (' ' :: ds) := by
  induction lead generalizing b with
  | nil => exact .swapped (hlead b (by simp)) rfl rfl h
  | cons c lead ih =>
    obtain ⟨hb, hlead⟩ := List.forall_mem_cons.1 hlead
    exact .shorter trivial hb rfl rfl (ih hlead)

/-- Behind the blanks in front, and up to those at the end, a text is respaced by putting
single spaces between its words. -/
theorem exists_respaced_joined (cs : List Char) : ∃ lead core trail, cs = lead ++ core ∧
    (∀ c ∈ lead, isBlank c) ∧ (∀ c ∈ trail, isBlank c) ∧
    Respaced ToSpace True trail [] core (joined cs) := by
  have hcases : (words isBlank cs = [] ∧ ∀ c ∈ cs, isBlank c) ∨ ∃ lead d core trail,
      cs = lead ++ d :: core ∧ (∀ c ∈ lead, isBlank c) ∧ isBlank d = false ∧
      (∀ c ∈ trail, isBlank c) ∧ Respaced ToSpace True trail [] (d :: core) (joined cs) := by
    induction cs with
    | nil => exact .inl ⟨rfl, by simp⟩
    | cons c cs ih =>
      cases hc : isBlank c with
      | true =>
        have hjoined : joined (c :: cs) = joined cs := by
          rw [joined, words_cons_of_isBlank hc, joined]
        rcases ih with ⟨hwords, hblank⟩ | ⟨lead, d, core, trail, rfl, hlead, hd, htrail, h⟩
        · exact .inl ⟨(words_cons_of_isBlank hc cs).trans hwords,
            List.forall_mem_cons.2 ⟨hc, hblank⟩⟩
        · exact .inr ⟨c :: lead, d, core, trail, rfl, List.forall_mem_cons.2 ⟨hc, hlead⟩, hd,
            htrail, hjoined ▸ h⟩
      | false =>
        refine .inr ⟨[], c, cs, ?_⟩
        rcases ih with ⟨hwords, hblank⟩ | ⟨lead, d, core, trail, rfl, hlead, hd, htrail, h⟩
        · refine ⟨cs, rfl, by simp, hc, hblank, ?_⟩
          have hjoined : joined (c :: cs) = [c] := by
            cases cs with
            | nil => simp [joined, words, hc]
            | cons b cs =>
              obtain ⟨hb, -⟩ := List.forall_mem_cons.1 hblank
              rw [joined_cons_blank hc hb, if_pos ((words_cons_of_isBlank hb cs).symm.trans hwords)]
          exact hjoined ▸ .same hc .done
        · refine ⟨trail, rfl, by simp, hc, htrail, ?_⟩
          cases lead with
          | nil =>
            rw [List.nil_append, joined_cons_cons hc hd]
            exact .same hc h
          | cons b lead =>
            obtain ⟨hb, hrest⟩ := List.forall_mem_cons.1 hlead
            have hwords := words_append_of_isBlank hrest (d :: core)
            rw [joined, words_append_of_isBlank hlead, ← hwords, ← joined] at h
            rw [List.cons_append, joined_cons_blank hc hb,
              if_neg (hwords ▸ words_cons_ne_nil hd core)]
            exact .same hc (h.blanks hlead)
  rcases hcases with ⟨hwords, hblank⟩ | ⟨lead, d, core, trail, hcs, hlead, -, htrail, h⟩
  · refine ⟨cs, [], [], by simp, hblank, by simp, ?_⟩
    rw [joined, hwords]
    exact .done
  · exact ⟨lead, d :: core, trail, hcs, hlead, htrail, h⟩

end ResolverTypings.Text
