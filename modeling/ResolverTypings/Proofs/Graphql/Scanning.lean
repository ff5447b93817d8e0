import ResolverTypings.Graphql.Lexer
import ResolverTypings.Proofs.Sequences
import ResolverTypings.Proofs.Text.Words

/-!
# What a token is read from

Numbers, names, marks and escapes hold no blank: they are read from the first word of the
text that is left and take no more than that word. What stands behind the word can be
changed without any of them noticing.
-/
namespace ResolverTypings.Graphql

open Text (RawText CodePoint isBlank isDigit hexDigit? hexNumber? letterEscape? isScalarValue
  isHighSurrogate isLowSurrogate joinSurrogates word StartsBlank word_cons word_eq_cases
  length_word_cons word_drop_eq)

/-! ## Characters of names and numbers -/

theorem isNamePart_iff {c : Char} : isNamePart c ↔
    (48 ≤ c.toNat ∧ c.toNat ≤ 57) ∨ (65 ≤ c.toNat ∧ c.toNat ≤ 90) ∨ c.toNat = 95 ∨
      (97 ≤ c.toNat ∧ c.toNat ≤ 122) := by
  have hunderscore : c = '_' ↔ c.toNat = 95 := ⟨fun h => h ▸ rfl, fun h => Char.toNat_inj.1 h⟩
  have hval : ∀ d : Char, d.val.toNat = d.toNat := fun _ => rfl
  have hbounds : 'a'.toNat = 97 ∧ 'z'.toNat = 122 ∧ 'A'.toNat = 65 ∧ 'Z'.toNat = 90 ∧
      '0'.toNat = 48 ∧ '9'.toNat = 57 := by decide
  simp only [isNamePart, isNameStart, isDigit, Bool.or_eq_true, Bool.and_eq_true,
    decide_eq_true_eq, beq_iff_eq, Char.le_def, UInt32.le_iff_toNat_le, hval, hunderscore, hbounds]
  omega

theorem isNamePart_eq_false_of_isBlank {c : Char} (h : isBlank c) : isNamePart c = false := by
  rw [Bool.eq_false_iff, ne_eq, isNamePart_iff]
  simp only [isBlank, Bool.or_eq_true, Bool.and_eq_true, decide_eq_true_eq, beq_iff_eq] at h
  omega

theorem isDigit_eq_false_of_isBlank {c : Char} (h : isBlank c) : isDigit c = false :=
  (Bool.or_eq_false_iff.1 (isNamePart_eq_false_of_isBlank h)).2

theorem isNameStart_eq_false_of_isBlank {c : Char} (h : isBlank c) : isNameStart c = false :=
  (Bool.or_eq_false_iff.1 (isNamePart_eq_false_of_isBlank h)).1

/-- A scanner that looks at the first word of a text only and takes no more than that. -/
def FromWord {ε α : Type} (size : α → Nat) (scanner : RawText → Except ε α) : Prop :=
  ∀ {cs ds : List Char} {a : α}, word cs = word ds → scanner (RawText.ofChars cs) = .ok a →
    scanner (RawText.ofChars ds) = .ok a ∧ size a ≤ (word cs).length

/-! ## Numbers -/

theorem digitCount_eq_ok_iff {before n : Nat} {cs : List Char} :
    digitCount before (RawText.ofChars cs) = .ok n ↔
      cs.takeWhile isDigit ≠ [] ∧ n = (cs.takeWhile isDigit).length := by
  unfold digitCount
  rw [RawText.charsWhile_ofChars]
  cases cs.takeWhile isDigit with
  | nil => simp [throw_eq_error]
  | cons d ds => simp [pure, Except.pure, eq_comm]

theorem fromWord_digitCount (before : Nat) : FromWord id (digitCount before) := by
  intro cs ds n hword h
  rw [digitCount_eq_ok_iff] at h ⊢
  rw [← Text.takeWhile_eq_of_word (fun _ => isDigit_eq_false_of_isBlank) hword]
  exact ⟨h, h.2 ▸ Text.length_takeWhile_le_word (fun _ => isDigit_eq_false_of_isBlank) cs⟩

theorem wholeLength_zero_eq_ok_iff {before n : Nat} {cs : List Char} :
    wholeLength before (RawText.ofChars ('0' :: cs)) = .ok n ↔
      cs.takeWhile isDigit = [] ∧ n = 1 := by
  rw [eq_comm (a := n)]
  rcases cs with _ | ⟨c, cs⟩
  · have hone : wholeLength before [.char '0'] = .ok 1 := rfl
    simp [hone]
  · cases hc : isDigit c <;>
      simp [wholeLength, hc, pure, Except.pure, throw_eq_error]

theorem wholeLength_of_ne_zero {before : Nat} {cs : List Char} (h : cs.head? ≠ some '0') :
    wholeLength before (RawText.ofChars cs) = digitCount before (RawText.ofChars cs) := by
  unfold wholeLength
  split
  · next heq =>
    rcases cs with _ | ⟨c, cs⟩
    · cases heq
    · obtain ⟨rfl, -⟩ : c = '0' ∧ _ := by simpa using heq
      simp at h
  · rfl

theorem fromWord_wholeLength (before : Nat) : FromWord id (wholeLength before) := by
  intro cs ds n hword h
  have hhead := Text.head?_eq_of_word hword (c := '0') (by decide)
  by_cases hzero : cs.head? = some '0'
  · obtain ⟨cs, rfl⟩ := List.head?_eq_some_iff.1 hzero
    obtain ⟨ds, rfl⟩ := List.head?_eq_some_iff.1 (hhead.1 hzero)
    have hrest : word cs = word ds := word_drop_eq (n := 1) hword (by simp [word_cons, isBlank])
    rw [wholeLength_zero_eq_ok_iff] at h ⊢
    rw [← Text.takeWhile_eq_of_word (fun _ => isDigit_eq_false_of_isBlank) hrest,
      length_word_cons (by decide)]
    obtain ⟨hnone, rfl⟩ := h
    exact ⟨⟨hnone, rfl⟩, Nat.succ_le_succ (Nat.zero_le _)⟩
  · rw [wholeLength_of_ne_zero hzero] at h
    rw [wholeLength_of_ne_zero (hhead.not.1 hzero)]
    exact fromWord_digitCount before hword h

theorem fractionLength_of_ne {before : Nat} {cs : List Char} (h : cs.head? ≠ some '.') :
    fractionLength before (RawText.ofChars cs) = .ok 0 := by
  unfold fractionLength
  split
  · next heq =>
    rcases cs with _ | ⟨c, cs⟩
    · cases heq
    · obtain ⟨rfl, -⟩ : c = '.' ∧ _ := by simpa using heq
      simp at h
  · rfl

theorem fromWord_fractionLength (before : Nat) : FromWord id (fractionLength before) := by
  intro cs ds n hword h
  rcases word_eq_cases hword with ⟨hcs, hds⟩ | ⟨c, cs, ds, rfl, rfl, hc, hrest⟩
  · rw [fractionLength_of_ne (hcs.head?_ne (by decide))] at h
    cases h
    exact ⟨fractionLength_of_ne (hds.head?_ne (by decide)), Nat.zero_le _⟩
  · by_cases hpoint : c = '.'
    · subst hpoint
      simp only [RawText.ofChars_cons, fractionLength] at h ⊢
      obtain ⟨m, hm, rfl⟩ := map_eq_ok_iff.1 h
      obtain ⟨hds, hle⟩ := fromWord_digitCount _ hrest hm
      rw [length_word_cons hc]
      exact ⟨map_eq_ok_iff.2 ⟨m, hds, rfl⟩, Nat.succ_le_succ hle⟩
    · rw [fractionLength_of_ne (by simpa using hpoint)] at h ⊢
      cases h
      exact ⟨rfl, Nat.zero_le _⟩

/-- The length of the sign of an exponent. -/
def signLength : RawText → Nat
  | .char '+' :: _ | .char '-' :: _ => 1
  | _ => 0

theorem exponentLength_cons (before : Nat) (c : Char) (rest : RawText) :
    exponentLength before (.char c :: rest) =
      if c = 'e' ∨ c = 'E' then
        (· + 1 + signLength rest) <$>
          digitCount (before + 1 + signLength rest) (rest.drop (signLength rest))
      else pure 0 := by
  unfold exponentLength signLength
  rfl

theorem signLength_of_startsBlank {cs : List Char} (h : StartsBlank cs) :
    signLength (RawText.ofChars cs) = 0 := by
  rcases cs with _ | ⟨c, cs⟩
  · rfl
  · unfold signLength
    split
    · next heq =>
      obtain ⟨rfl, -⟩ : c = '+' ∧ _ := by simpa using heq
      exact absurd (h _ rfl) (by decide)
    · next heq =>
      obtain ⟨rfl, -⟩ : c = '-' ∧ _ := by simpa using heq
      exact absurd (h _ rfl) (by decide)
    · rfl

theorem signLength_of_word {cs ds : List Char} (h : word cs = word ds) :
    signLength (RawText.ofChars cs) = signLength (RawText.ofChars ds) ∧
      signLength (RawText.ofChars cs) ≤ (word cs).length := by
  rcases word_eq_cases h with ⟨hcs, hds⟩ | ⟨c, cs, ds, rfl, rfl, hc, -⟩
  · rw [signLength_of_startsBlank hcs, signLength_of_startsBlank hds]
    exact ⟨rfl, Nat.zero_le _⟩
  · have hle : signLength (RawText.ofChars (c :: cs)) ≤ 1 := by
      unfold signLength
      split <;> simp
    refine ⟨?_, Nat.le_trans hle ?_⟩
    · unfold signLength
      simp only [RawText.ofChars_cons]
      split <;> simp_all
    · rw [length_word_cons hc]
      exact Nat.succ_le_succ (Nat.zero_le _)

theorem exponentLength_of_startsBlank {before : Nat} {cs : List Char} (h : StartsBlank cs) :
    exponentLength before (RawText.ofChars cs) = .ok 0 := by
  rcases cs with _ | ⟨c, cs⟩
  · rfl
  · have hc : ¬ (c = 'e' ∨ c = 'E') := by
      rintro (rfl | rfl) <;> exact absurd (h _ rfl) (by decide)
    rw [RawText.ofChars_cons, exponentLength_cons, if_neg hc]
    rfl

theorem fromWord_exponentLength (before : Nat) : FromWord id (exponentLength before) := by
  intro cs ds n hword h
  rcases word_eq_cases hword with ⟨hcs, hds⟩ | ⟨c, cs, ds, rfl, rfl, hc, hrest⟩
  · rw [exponentLength_of_startsBlank hcs] at h
    cases h
    exact ⟨exponentLength_of_startsBlank hds, Nat.zero_le _⟩
  · rw [RawText.ofChars_cons, exponentLength_cons] at h ⊢
    split at h
    · next hmark =>
      rw [if_pos hmark]
      obtain ⟨hsign, hlength⟩ := signLength_of_word hrest
      obtain ⟨m, hm, rfl⟩ := map_eq_ok_iff.1 h
      rw [RawText.drop_ofChars] at hm
      obtain ⟨hds, hle⟩ := fromWord_digitCount _ (word_drop_eq hrest hlength) hm
      rw [Text.length_word_drop hlength] at hle
      rw [length_word_cons hc, ← hsign, RawText.drop_ofChars]
      refine ⟨map_eq_ok_iff.2 ⟨m, hds, rfl⟩, ?_⟩
      simp only [id] at hle ⊢
      omega
    · next hmark =>
      rw [if_neg hmark]
      cases h
      exact ⟨rfl, Nat.zero_le _⟩

/-- The length of the minus in front of a number. -/
def minusLength (text : RawText) : Nat :=
  if text.head? = some (.char '-') then 1 else 0

/-- A number ends where neither a point nor a name follows. -/
def endsNumber : RawText → Bool
  | .char c :: _ => !(c == '.' || isNameStart c)
  | _ => true

/-- The token of a number with the given text, which is whole or not. -/
def numberToken (isWhole : Bool) (text : RawText) : Token :=
  if isWhole then .int text.shown else .float text.shown

theorem scanNumber_eq_ok_iff {text : RawText} {result : Token × Nat} :
    scanNumber text = .ok result ↔ ∃ whole fraction exponent,
      wholeLength (minusLength text) (text.drop (minusLength text)) = .ok whole ∧
      fractionLength (minusLength text + whole) (text.drop (minusLength text + whole)) =
        .ok fraction ∧
      exponentLength (minusLength text + whole + fraction)
        (text.drop (minusLength text + whole + fraction)) = .ok exponent ∧
      endsNumber (text.drop (minusLength text + whole + fraction + exponent)) = true ∧
      result = (numberToken (minusLength text + whole + fraction + exponent ==
          minusLength text + whole) (text.take (minusLength text + whole + fraction + exponent)),
        minusLength text + whole + fraction + exponent) := by
  have hminus : (if text.head? = some (.char '-') then 1 else 0) = minusLength text := rfl
  simp only [scanNumber, bind_eq_ok_iff, hminus]
  refine exists_congr fun whole => ?_
  rw [← exists_and_left]
  refine exists_congr fun fraction => ?_
  rw [← exists_and_left, ← exists_and_left]
  refine exists_congr fun exponent => ?_
  refine and_congr_right fun _ => and_congr_right fun _ => and_congr_right fun _ => ?_
  generalize minusLength text + whole + fraction + exponent = length
  cases text.drop length with
  | nil => simp [endsNumber, numberToken, pure_eq_ok_iff]
  | cons point rest =>
    cases point with
    | surrogate index => simp [endsNumber, numberToken, pure_eq_ok_iff]
    | char c =>
      by_cases hc : c = '.' ∨ isNameStart c = true
      · have hends : endsNumber (.char c :: rest) = false := by
          simpa [endsNumber, or_iff_not_imp_left] using hc
        simp [hc, hends, throw_eq_error, bind, Except.bind]
      · have hends : endsNumber (.char c :: rest) = true := by
          simpa [endsNumber, not_or] using hc
        simp [hc, hends, numberToken, pure_eq_ok_iff]

theorem minusLength_of_word {cs ds : List Char} (h : word cs = word ds) :
    minusLength (RawText.ofChars ds) = minusLength (RawText.ofChars cs) ∧
      minusLength (RawText.ofChars cs) ≤ (word cs).length := by
  have hminus : ∀ es : List Char,
      minusLength (RawText.ofChars es) = if es.head? = some '-' then 1 else 0 := by
    intro es
    cases es <;> simp [minusLength]
  rw [hminus, hminus]
  rcases word_eq_cases h with ⟨hcs, hds⟩ | ⟨c, cs, ds, rfl, rfl, hc, -⟩
  · simp [hcs.head?_ne (c := '-') (by decide), hds.head?_ne (c := '-') (by decide)]
  · rw [length_word_cons hc]
    refine ⟨rfl, ?_⟩
    split <;> omega

theorem endsNumber_of_word {cs ds : List Char} (h : word cs = word ds) :
    endsNumber (RawText.ofChars ds) = endsNumber (RawText.ofChars cs) := by
  have hblank : ∀ {es : List Char}, StartsBlank es → endsNumber (RawText.ofChars es) = true := by
    intro es hes
    rcases es with _ | ⟨c, es⟩
    · rfl
    · have hc := hes c rfl
      have hpoint : c ≠ '.' := by
        rintro rfl
        exact absurd hc (by decide)
      simp [endsNumber, hpoint, isNameStart_eq_false_of_isBlank hc]
  rcases word_eq_cases h with ⟨hcs, hds⟩ | ⟨c, cs, ds, rfl, rfl, hc, -⟩
  · rw [hblank hcs, hblank hds]
  · rfl

theorem fromWord_scanNumber : FromWord (·.2) scanNumber := by
  intro cs ds result hword h
  obtain ⟨hminus, hsign⟩ := minusLength_of_word hword
  rw [scanNumber_eq_ok_iff] at h ⊢
  rw [hminus]
  generalize minusLength (RawText.ofChars cs) = sign at h hsign ⊢
  simp only [RawText.drop_ofChars, RawText.take_ofChars] at h ⊢
  obtain ⟨whole, fraction, exponent, hwhole, hfraction, hexponent, hends, rfl⟩ := h
  -- Each part is read from the same word as long as the ones before it lie within the word.
  obtain ⟨hwhole', hle⟩ := fromWord_wholeLength _ (word_drop_eq hword hsign) hwhole
  rw [Text.length_word_drop hsign, id] at hle
  have hle : sign + whole ≤ (word cs).length := by omega
  obtain ⟨hfraction', hle'⟩ := fromWord_fractionLength _ (word_drop_eq hword hle) hfraction
  rw [Text.length_word_drop hle, id] at hle'
  have hle' : sign + whole + fraction ≤ (word cs).length := by omega
  obtain ⟨hexponent', hle''⟩ := fromWord_exponentLength _ (word_drop_eq hword hle') hexponent
  rw [Text.length_word_drop hle', id] at hle''
  have hle'' : sign + whole + fraction + exponent ≤ (word cs).length := by omega
  refine ⟨⟨whole, fraction, exponent, hwhole', hfraction', hexponent', ?_, ?_⟩, hle''⟩
  · rw [endsNumber_of_word (word_drop_eq hword hle''), hends]
  · rw [Text.take_eq_of_word hword hle'']

/-! ## Escapes -/

theorem hexDigit?_eq_none_of_isBlank {c : Char} (h : isBlank c) : hexDigit? c = none := by
  have hval : ∀ d : Char, d.val.toNat = d.toNat := fun _ => rfl
  have hbounds : '0'.toNat = 48 ∧ '9'.toNat = 57 ∧ 'a'.toNat = 97 ∧ 'f'.toNat = 102 ∧
      'A'.toNat = 65 ∧ 'F'.toNat = 70 := by decide
  simp only [isBlank, Bool.or_eq_true, Bool.and_eq_true, decide_eq_true_eq, beq_iff_eq] at h
  simp only [hexDigit?, Char.le_def, UInt32.le_iff_toNat_le, hval, hbounds]
  rw [if_neg (by omega), if_neg (by omega), if_neg (by omega)]

theorem isBlank_eq_false_of_hexNumber? {digits : List Char} {code : Nat}
    (h : hexNumber? digits = some code) : ∀ c ∈ digits, isBlank c = false := by
  have hfold : ∀ start, digits.foldlM (fun n c => (hexDigit? c).map (16 * n + ·)) start = some code →
      ∀ c ∈ digits, isBlank c = false := by
    clear h
    intro start h
    induction digits generalizing start with
    | nil => simp
    | cons d digits ih =>
      simp only [List.foldlM_cons, Option.bind_eq_bind, Option.bind_eq_some_iff,
        Option.map_eq_some_iff] at h
      obtain ⟨next, ⟨value, hvalue, -⟩, hrest⟩ := h
      refine List.forall_mem_cons.2 ⟨?_, ih next hrest⟩
      cases hd : isBlank d with
      | false => rfl
      | true => simp [hexDigit?_eq_none_of_isBlank hd] at hvalue
  exact hfold 0 h

theorem hexCode?_ofChars (digits : List Char) :
    hexCode? (RawText.ofChars digits) = hexNumber? digits := by
  simp [hexCode?]

/-- Four digits behind `u`, and behind those another four for the other half of a pair. -/
theorem fixedWidthEscape_eq_ok_iff {cs : List Char} {result : Char × Nat} :
    fixedWidthEscape (RawText.ofChars ('u' :: cs)) = .ok result ↔
      ∃ code, hexNumber? (cs.take 4) = some code ∧ 4 ≤ cs.length ∧
        (isScalarValue code ∧ result = (Char.ofNat code, 6) ∨
          ¬ isScalarValue code ∧ ∃ rest low, cs.drop 4 = '\\' :: 'u' :: rest ∧
            hexNumber? (rest.take 4) = some low ∧ 4 ≤ rest.length ∧ isHighSurrogate code ∧
            isLowSurrogate low ∧ result = (joinSurrogates code low, 12)) := by
  have hdigits : ((RawText.ofChars ('u' :: cs)).drop 1).take 4 = RawText.ofChars (cs.take 4) := by
    simp
  have hpair : (RawText.ofChars ('u' :: cs)).drop 5 = RawText.ofChars (cs.drop 4) := by simp
  simp only [fixedWidthEscape, hdigits, hpair, hexCode?_ofChars, RawText.length_ofChars]
  cases hcode : hexNumber? (cs.take 4) with
  | none => simp [throw_eq_error]
  | some code =>
    simp only [Option.some.injEq, exists_eq_left', List.length_take]
    by_cases hlength : 4 ≤ cs.length
    · rw [if_neg (by omega)]
      by_cases hscalar : isScalarValue code
      · simp [hscalar, hlength, pure_eq_ok_iff]
      · simp only [hscalar, hlength, true_and, false_and, false_or, not_false_eq_true, if_false,
          Bool.false_eq_true]
        split
        · next rest hrest =>
          obtain ⟨ds, hds, rfl⟩ : ∃ ds, cs.drop 4 = '\\' :: 'u' :: ds ∧
              RawText.ofChars ds = rest := by
            rcases hcs : cs.drop 4 with _ | ⟨c, _ | ⟨d, ds⟩⟩ <;> rw [hcs] at hrest
            · cases hrest
            · cases hrest
            · cases hrest
              exact ⟨ds, rfl, rfl⟩
          simp only [hds, List.cons.injEq, true_and, RawText.take_ofChars, hexCode?_ofChars]
          cases hlow : hexNumber? (ds.take 4) with
          | none => simp [hlow, throw_eq_error]
          | some low =>
            by_cases hhalves : 4 ≤ ds.length ∧ isHighSurrogate code ∧ isLowSurrogate low
            · simp [hlow, hhalves, pure_eq_ok_iff]
            · simp only [RawText.length_ofChars, if_neg hhalves]
              simp only [throw_eq_error, reduceCtorEq, false_iff]
              rintro ⟨rest, low', rfl, hlow', hrest, hhigh, hlow'', -⟩
              rw [hlow] at hlow'
              cases hlow'
              exact hhalves ⟨hrest, hhigh, hlow''⟩
        · next hne =>
          simp only [throw_eq_error, reduceCtorEq, false_iff]
          rintro ⟨rest, low, hrest, -⟩
          exact hne (RawText.ofChars rest) (by rw [hrest]; rfl)
    · rw [if_pos (by omega)]
      simp [hlength, throw_eq_error]

/-- The digits of an escape belong to the word that it starts in. -/
theorem hexNumber?_take_of_word {cs ds : List Char} (hword : word cs = word ds) {n code : Nat}
    (hn : n ≤ cs.length) (h : hexNumber? (cs.take n) = some code) :
    hexNumber? (ds.take n) = some code ∧ n ≤ ds.length ∧ n ≤ (word cs).length := by
  have hle := Text.le_length_word hn (isBlank_eq_false_of_hexNumber? h)
  have hlength : (word ds).length ≤ ds.length := (List.takeWhile_sublist _).length_le
  rw [← Text.take_eq_of_word hword hle]
  exact ⟨h, Nat.le_trans (hword ▸ hle) hlength, hle⟩

theorem fixedWidthEscape_of_word {cs ds : List Char} (hword : word cs = word ds)
    {result : Char × Nat} (h : fixedWidthEscape (RawText.ofChars ('u' :: cs)) = .ok result) :
    fixedWidthEscape (RawText.ofChars ('u' :: ds)) = .ok result ∧
      result.2 - 2 ≤ (word cs).length := by
  rw [fixedWidthEscape_eq_ok_iff] at h ⊢
  obtain ⟨code, hcode, hlength, hresult⟩ := h
  obtain ⟨hcode', hlength', hle⟩ := hexNumber?_take_of_word hword hlength hcode
  rcases hresult with ⟨hscalar, rfl⟩ | ⟨hscalar, rest, low, hrest, hlow, hfour, hhigh, hlows, rfl⟩
  · exact ⟨⟨code, hcode', hlength', .inl ⟨hscalar, rfl⟩⟩, hle⟩
  · have hdrop := word_drop_eq hword hle
    have hdropped := Text.length_word_drop hle
    rw [hrest] at hdrop hdropped
    obtain ⟨ds', hds', hdrop⟩ := Text.exists_cons_of_word hdrop (by decide)
    obtain ⟨rest', rfl, hwords⟩ := Text.exists_cons_of_word hdrop (by decide)
    rw [length_word_cons (by decide), length_word_cons (by decide)] at hdropped
    obtain ⟨hlow', hfour', hle'⟩ := hexNumber?_take_of_word hwords hfour hlow
    refine ⟨⟨code, hcode', hlength', .inr ⟨hscalar, rest', low, hds', hlow', hfour', hhigh,
      hlows, rfl⟩⟩, ?_⟩
    omega

theorem bracedDigits_of_word {cs ds : List Char} (hword : word cs = word ds) {code read : Nat}
    {result : Char × Nat} (h : bracedDigits code read (RawText.ofChars cs) = .ok result) :
    bracedDigits code read (RawText.ofChars ds) = .ok result ∧
      result.2 - read ≤ (word cs).length := by
  induction cs generalizing ds code read with
  | nil => cases h
  | cons c cs ih =>
    rw [RawText.ofChars_cons, bracedDigits] at h
    split_ifs at h with hread hclose hscalar
    · cases h
      cases hclose
      obtain ⟨ds, rfl, -⟩ := Text.exists_cons_of_word hword (by decide)
      rw [RawText.ofChars_cons, bracedDigits, if_neg hread, if_pos rfl, if_pos hscalar,
        length_word_cons (by decide)]
      exact ⟨rfl, by simp⟩
    · have hsingle : hexCode? [.char c] = hexNumber? [c] := hexCode?_ofChars [c]
      rw [hsingle] at h
      cases hdigit : hexNumber? [c] with
      | none => simp [hdigit, throw_eq_error] at h
      | some digit =>
        have hc : isBlank c = false := isBlank_eq_false_of_hexNumber? hdigit c (by simp)
        simp only [hdigit] at h
        obtain ⟨ds, rfl, hrest⟩ := Text.exists_cons_of_word hword hc
        obtain ⟨hds, hle⟩ := ih hrest h
        rw [RawText.ofChars_cons, bracedDigits, if_neg hread, if_neg hclose, hsingle, hdigit,
          length_word_cons hc]
        exact ⟨hds, by omega⟩

theorem bracedEscape_eq_ok_iff {cs : List Char} {result : Char × Nat} :
    bracedEscape (RawText.ofChars ('u' :: '\x7b' :: cs)) = .ok result ↔
      bracedDigits 0 3 (RawText.ofChars cs) = .ok result := by
  have hdrop : (RawText.ofChars ('u' :: '\x7b' :: cs)).drop 2 = RawText.ofChars cs := by simp
  rw [bracedEscape, hdrop]
  cases bracedDigits 0 3 (RawText.ofChars cs) <;>
    simp [pure, Except.pure, throw_eq_error]

theorem escapeSequence_u {cs : List Char} (h : cs.head? ≠ some '\x7b') :
    escapeSequence (RawText.ofChars ('u' :: cs)) =
      fixedWidthEscape (RawText.ofChars ('u' :: cs)) := by
  rcases cs with _ | ⟨c, cs⟩
  · rfl
  · simp only [RawText.ofChars_cons]
    unfold escapeSequence
    split
    · simp_all
    · rfl
    · next heq =>
      cases heq
      simp_all
    · simp_all

theorem escapeSequence_letter {c : Char} {cs : List Char} (hc : c ≠ 'u')
    {result : Char × Nat} :
    escapeSequence (RawText.ofChars (c :: cs)) = .ok result ↔
      ∃ d, letterEscape? c = some d ∧ result = (d, 2) := by
  unfold escapeSequence
  split
  · simp_all
  · simp_all
  · next heq =>
    cases heq
    cases letterEscape? c <;>
      simp [pure, Except.pure, throw_eq_error, eq_comm]
  · next hne => exact absurd rfl (hne _ _)

theorem isBlank_eq_false_of_letterEscape? {c d : Char} (h : letterEscape? c = some d) :
    isBlank c = false := by
  unfold letterEscape? at h
  split at h <;> first | rfl | cases h

/-- An escape takes its backslash and no more than the word behind it. -/
theorem fromWord_escapeSequence : FromWord (·.2 - 1) escapeSequence := by
  intro cs ds result hword h
  rcases cs with _ | ⟨c, cs⟩
  · cases h
  · by_cases hc : c = 'u'
    · subst hc
      obtain ⟨ds, rfl, hrest⟩ := Text.exists_cons_of_word hword (by decide)
      have hhead := Text.head?_eq_of_word hrest (c := '\x7b') (by decide)
      rw [length_word_cons (by decide)]
      by_cases hbrace : cs.head? = some '\x7b'
      · obtain ⟨cs, rfl⟩ := List.head?_eq_some_iff.1 hbrace
        obtain ⟨ds, rfl, hdigits⟩ := Text.exists_cons_of_word hrest (by decide)
        rw [length_word_cons (by decide)]
        obtain ⟨hds, hle⟩ := bracedDigits_of_word hdigits (bracedEscape_eq_ok_iff.1 h)
        exact ⟨bracedEscape_eq_ok_iff.2 hds, by simp only; omega⟩
      · rw [escapeSequence_u hbrace] at h
        rw [escapeSequence_u (hhead.not.1 hbrace)]
        obtain ⟨hds, hle⟩ := fixedWidthEscape_of_word hrest h
        exact ⟨hds, by simp only; omega⟩
    · obtain ⟨d, hd, rfl⟩ := (escapeSequence_letter hc).1 h
      have hblank := isBlank_eq_false_of_letterEscape? hd
      obtain ⟨ds, rfl, -⟩ := Text.exists_cons_of_word hword hblank
      rw [length_word_cons hblank]
      exact ⟨(escapeSequence_letter hc).2 ⟨d, hd, rfl⟩, by simp⟩

/-! ## Tokens other than strings -/

theorem isBlank_eq_false_of_isDigit {c : Char} (h : isDigit c) : isBlank c = false := by
  cases hc : isBlank c with
  | false => rfl
  | true => simp [isDigit_eq_false_of_isBlank hc] at h

/-- A token that is no string is read from its first character and the word behind it. -/
theorem scanToken_of_word {c : Char} (hc : c ≠ '"') {cs ds : List Char}
    (hword : word cs = word ds) {token : Token} {length : Nat}
    (h : scanToken c (RawText.ofChars cs) = .ok (token, length)) :
    scanToken c (RawText.ofChars ds) = .ok (token, length) ∧ length - 1 ≤ (word cs).length := by
  unfold scanToken at h ⊢
  cases hmark : punctuator? c with
  | some mark =>
    simp only [hmark] at h ⊢
    cases h
    exact ⟨rfl, Nat.zero_le _⟩
  | none =>
    simp only [hmark] at h ⊢
    split_ifs at h with hdot hspread hnumber hstart happostrophe
    · cases h
      have hblank : ∀ c ∈ "..".toList, isBlank c = false := by simp [isBlank]
      rw [RawText.ofString, RawText.isPrefixOf_ofChars] at hspread
      rw [if_pos hdot, RawText.ofString, RawText.isPrefixOf_ofChars, Text.isPrefixOf_word hblank,
        ← hword, ← Text.isPrefixOf_word hblank, if_pos hspread]
      exact ⟨rfl, Text.length_le_word_of_isPrefixOf hblank hspread⟩
    · rw [if_neg hdot, if_neg hc, if_pos hnumber]
      have hcblank : isBlank c = false := by
        rcases hnumber with hdigit | rfl
        · exact isBlank_eq_false_of_isDigit hdigit
        · decide
      have hwords : word (c :: cs) = word (c :: ds) := by
        rw [word_cons hcblank, word_cons hcblank, hword]
      obtain ⟨hds, hle⟩ := fromWord_scanNumber hwords h
      rw [length_word_cons hcblank] at hle
      exact ⟨hds, by simp only at hle; omega⟩
    · cases h
      simp only [RawText.charsWhile_ofChars]
      rw [if_neg hdot, if_neg hc, if_neg hnumber, if_pos hstart,
        Text.takeWhile_eq_of_word (fun _ => isNamePart_eq_false_of_isBlank) hword]
      refine ⟨rfl, ?_⟩
      rw [hword, Nat.add_sub_cancel]
      exact Text.length_takeWhile_le_word (fun _ => isNamePart_eq_false_of_isBlank) ds

end ResolverTypings.Graphql
