import Mathlib.Algebra.Order.Field.Rat
import Mathlib.Data.Rat.Cast.Lemmas
import Mathlib.Tactic.NormNum
import ResolverTypings.Proofs.Sequences
import ResolverTypings.Proofs.Tables
import ResolverTypings.Proofs.Text.RawTexts
import ResolverTypings.TypeScript.SettingsFile

/-!
# What settings mean

A settings file is a JSON object that gives the only setting once, under either of its names, or not
at all. The value is a truth value, the number one or zero, or a word for yes or no. Everything
else is refused.
-/
namespace ResolverTypings

open Text (RawText)

/-! ## Numbers -/

namespace Decimal.Binary64

/-- A finite number of the format is a mantissa times a power of two. -/
inductive Is : Binary64 → ℚ → Prop where
  | finite (negative : Bool) (mantissa : Nat) (exponent : Int) :
    Is (.finite negative mantissa exponent)
      ((if negative then -1 else 1) * mantissa * 2 ^ exponent)

/-- A scaled fraction is the fraction divided by a power of two. -/
theorem scale_eq (num : Nat) {den : Nat} (hden : 0 < den) (exponent : Int) :
    0 < (scale num den exponent).2 ∧
      ((scale num den exponent).1 : ℚ) / (scale num den exponent).2 = num / den / 2 ^ exponent := by
  unfold scale
  split_ifs with hsign
  · obtain ⟨k, rfl⟩ := Int.eq_ofNat_of_zero_le hsign
    simp only [Int.toNat_natCast, Nat.shiftLeft_eq, zpow_natCast]
    refine ⟨Nat.mul_pos hden (by positivity), ?_⟩
    push_cast
    rw [div_div]
  · obtain ⟨k, rfl⟩ := Int.exists_eq_neg_ofNat (Int.le_of_lt (Int.not_le.1 hsign))
    simp only [neg_neg, Int.toNat_natCast, Nat.shiftLeft_eq, zpow_neg, zpow_natCast]
    refine ⟨hden, ?_⟩
    push_cast
    rw [div_inv_eq_mul, mul_div_right_comm]

/-- A fraction is an integer just where its division leaves no rest. -/
theorem signed_div_eq_some_iff (negative : Bool) (num : Nat) {den : Nat} (hden : 0 < den)
    {n : Int} :
    (if num % den = 0 then some (if negative then -((num / den : Nat) : Int) else (num / den : Nat))
      else none) = some n ↔ (if negative then -1 else 1) * ((num : ℚ) / den) = n := by
  have hden' : (den : ℚ) ≠ 0 := by exact_mod_cast hden.ne'
  have hsigned : ∀ sign : Int, (sign : ℚ) * (num / den) = n ↔ sign * num = n * den := by
    intro sign
    rw [← mul_div_assoc, div_eq_iff hden']
    exact_mod_cast Iff.rfl
  have hsplit : (if negative then -1 else 1 : ℚ) = ((if negative then -1 else 1 : Int) : ℚ) := by
    split <;> simp
  rw [hsplit, hsigned]
  by_cases hrest : num % den = 0
  · obtain ⟨k, rfl⟩ := Nat.dvd_of_mod_eq_zero hrest
    have hden'' : (den : Int) ≠ 0 := by exact_mod_cast hden.ne'
    have hcancel : ∀ sign : Int, sign * (den * k : Nat) = n * den ↔ sign * k = n := by
      intro sign
      rw [Nat.cast_mul, mul_left_comm, mul_comm n, mul_right_inj' hden'']
    rw [hcancel, if_pos hrest, Nat.mul_div_cancel_left k hden, Option.some_inj]
    split <;> simp
  · rw [if_neg hrest]
    refine iff_of_false (by simp) fun heq => hrest (Nat.mod_eq_zero_of_dvd ?_)
    have hdvd : (den : Int) ∣ num := by
      have hdvd : (den : Int) ∣ (if negative then -1 else 1) * num := heq ▸ Dvd.intro_left n rfl
      split at hdvd <;> simpa using hdvd
    exact_mod_cast hdvd

theorem integer?_eq_some_iff {x : Binary64} {n : Int} : x.integer? = some n ↔ x.Is n := by
  cases x with
  | nan => exact iff_of_false (by rintro ⟨⟩) (by rintro ⟨⟩)
  | infinite => exact iff_of_false (by rintro ⟨⟩) (by rintro ⟨⟩)
  | finite negative mantissa exponent =>
    obtain ⟨hden, hvalue⟩ := scale_eq mantissa Nat.one_pos (-exponent)
    have hscaled : (mantissa : ℚ) * 2 ^ exponent = mantissa / (1 : Nat) / 2 ^ (-exponent) := by
      rw [Nat.cast_one, div_one, zpow_neg, div_inv_eq_mul]
    rw [← hscaled] at hvalue
    refine (signed_div_eq_some_iff negative (scale mantissa 1 (-exponent)).1 hden).trans ?_
    rw [hvalue, ← mul_assoc]
    refine ⟨fun heq => ?_, ?_⟩
    · rw [← heq]
      exact .finite negative mantissa exponent
    · intro his
      generalize hq : (n : ℚ) = q at his
      cases his
      rfl

end Decimal.Binary64

namespace TypeScript

/-! ## Truth values -/

/-- The words for a truth value, in lower case. -/
def wordsFor : Bool → List String
  | true => ["1", "true", "t", "yes", "y", "on"]
  | false => ["0", "false", "f", "no", "n", "off"]

/-- A value stands for a truth value: it is the value itself, or the number one for yes or zero for
no, or a word in letters of either case. -/
inductive StandsFor : Json → Bool → Prop where
  | bool (b : Bool) : StandsFor (.bool b) b
  | int (b : Bool) : StandsFor (.int b.toInt) b
  | float {x : Decimal.Binary64} {b : Bool} (hx : x.Is b.toInt) : StandsFor (.float x) b
  | word {word : String} {b : Bool} (hword : word.toLower ∈ wordsFor b) :
    StandsFor (.str (RawText.ofString word)) b

theorem readBit_eq_ok_iff {n : Int} {b : Bool} : readBit n = .ok b ↔ n = b.toInt := by
  unfold readBit
  split_ifs with hzero hone
  · cases b <;> simp [hzero, pure_eq_ok_iff]
  · cases b <;> simp [hone, pure_eq_ok_iff]
  · cases b <;> simp [hzero, hone]
  · cases b <;> simp [hzero, hone]

theorem readWord_eq_ok_iff {text : RawText} {b : Bool} : readWord text = .ok b ↔
    ∃ word : String, text = RawText.ofString word ∧ word.toLower ∈ wordsFor b := by
  unfold readWord
  cases hchars : text.toChars? with
  | none =>
    refine iff_of_false (by rintro ⟨⟩) ?_
    rintro ⟨word, rfl, -⟩
    simp [RawText.ofString] at hchars
  | some cs =>
    have htext := RawText.toChars?_eq_some_iff.1 hchars
    have hword : (∃ word : String, text = RawText.ofString word ∧ word.toLower ∈ wordsFor b) ↔
        String.ofList (cs.map Char.toLower) ∈ wordsFor b := by
      rw [htext]
      have hlower : ∀ word : String,
          word.toLower = String.ofList (word.toList.map Char.toLower) :=
        fun _ => String.map_eq_internal
      constructor
      · rintro ⟨word, hcs, hmem⟩
        rw [RawText.ofChars_inj.1 hcs]
        rwa [hlower] at hmem
      · intro hmem
        refine ⟨String.ofList cs, by rw [RawText.ofString, String.toList_ofList], ?_⟩
        rwa [hlower, String.toList_ofList]
    rw [hword]
    dsimp only
    generalize String.ofList (cs.map Char.toLower) = word
    have hapart : word ∈ wordsFor true → word ∉ wordsFor false := by
      intro htrue
      simp only [wordsFor, List.mem_cons, List.not_mem_nil, or_false] at htrue
      rcases htrue with rfl | rfl | rfl | rfl | rfl | rfl <;> decide
    have htrue : trueWords.contains word = true ↔ word ∈ wordsFor true := List.contains_iff_mem
    have hfalse : falseWords.contains word = true ↔ word ∈ wordsFor false := List.contains_iff_mem
    simp only [htrue, hfalse]
    split_ifs with hyes hno
    · cases b <;> simp [hyes, hapart hyes, pure_eq_ok_iff]
    · cases b <;> simp [hyes, hno, pure_eq_ok_iff]
    · cases b <;> simp [hyes, hno]

/-- Just the values that stand for a truth value are read as one. -/
theorem readBool_eq_ok_iff {value : Json} {b : Bool} :
    readBool value = .ok b ↔ StandsFor value b := by
  cases value with
  | null | arr | obj => exact iff_of_false (by rintro ⟨⟩) (by rintro ⟨⟩)
  | bool =>
    constructor
    · rintro ⟨⟩
      exact .bool b
    · rintro ⟨⟩
      rfl
  | int n =>
    rw [readBool, readBit_eq_ok_iff]
    constructor
    · rintro rfl
      exact .int b
    · rintro ⟨⟩
      rfl
  | float x =>
    have hread : readBool (.float x) = .ok b ↔ x.integer? = some b.toInt := by
      rw [readBool]
      cases x.integer? with
      | none => simp
      | some n =>
        dsimp only
        split_ifs with hleast
        · cases b <;> simp [hleast, leastWord]
        · simp [readBit_eq_ok_iff]
    rw [hread, Decimal.Binary64.integer?_eq_some_iff]
    constructor
    · exact .float
    · rintro ⟨⟩
      assumption
  | str text =>
    rw [readBool, readWord_eq_ok_iff]
    constructor
    · rintro ⟨word, rfl, hword⟩
      exact .word hword
    · rintro (_ | _ | _ | hword)
      exact ⟨_, rfl, hword⟩

/-! ## Files -/

/-- A name is one of the two of the only setting. -/
def NamesSetting (name : String) : Prop :=
  name = "__experimentalInternalEnumValueSupport" ∨
    name = "experimental_internal_enum_value_support"

/-- What a JSON value says about the settings. An object says nothing, or it gives the setting under
one of its names. (That no name stands twice in an object is up to the reader of JSON.) -/
inductive Describes : Json → Settings → Prop where
  | usual : Describes (.obj []) {}
  | given {name : String} {value : Json} {others : List (RawText × Json)} {b : Bool}
      (hname : NamesSetting name) (hothers : ∀ other ∈ others, other.1 = RawText.ofString name)
      (hvalue : StandsFor value b) :
      Describes (.obj ((RawText.ofString name, value) :: others)) { internalEnumValues := b }

namespace Settings

theorem get?_eq_none_of_forall {members : List (String × Json)} {name other : String}
    (h : ∀ member ∈ members, member.1 = name) (hne : name ≠ other) :
    Table.get? members other = none := by
  rw [← Option.not_isSome_iff_eq_none, Table.isSome_get?_iff]
  intro hmem
  obtain ⟨member, hmember, rfl⟩ := List.mem_map.1 hmem
  exact hne (h member hmember).symm

/-- The name that counts is the one that all members have. -/
theorem givenName_eq {name : String} (hname : NamesSetting name) {members : List (String × Json)}
    (hne : members ≠ []) (h : ∀ member ∈ members, member.1 = name) : givenName members = name := by
  obtain ⟨first, others, rfl⟩ := List.exists_cons_of_ne_nil hne
  rcases hname with rfl | rfl
  · have hfirst : first.1 = publicName := h first List.mem_cons_self
    simp [givenName, Table.get?, hfirst, publicName]
  · have hnone : Table.get? (first :: others) publicName = none :=
      get?_eq_none_of_forall h (by decide)
    rw [givenName, hnone]
    rfl

/-- The members of an object give settings if there are none, or if all of them have one name of the
setting. The first of them counts then. -/
theorem ofMembers_eq_ok_iff {members : List (String × Json)} {settings : Settings} :
    ofMembers members = .ok settings ↔ members = [] ∧ settings = {} ∨
      ∃ name value others b, members = (name, value) :: others ∧ NamesSetting name ∧
        (∀ other ∈ others, other.1 = name) ∧ readBool value = .ok b ∧
        settings = { internalEnumValues := b } := by
  constructor
  · intro h
    have hname : NamesSetting (givenName members) := by
      unfold givenName
      split
      · exact .inl rfl
      · exact .inr rfl
    simp only [ofMembers] at h
    split at h
    · next b hknown =>
      split_ifs at h with hextra
      cases h
      have hsame : ∀ member ∈ members, member.1 = givenName members := by
        simpa [List.filter_eq_nil_iff] using hextra
      cases members with
      | nil =>
        cases hknown
        exact .inl ⟨rfl, rfl⟩
      | cons first others =>
        rw [List.forall_mem_cons] at hsame
        simp only [Table.get?, hsame.1, if_true, mapError_eq_ok_iff] at hknown
        exact .inr ⟨givenName (first :: others), first.2, others, b, by rw [← hsame.1], hname,
          hsame.2, hknown, rfl⟩
    · cases h
  · rintro (⟨rfl, rfl⟩ | ⟨name, value, others, b, rfl, hname, hothers, hvalue, rfl⟩)
    · rfl
    · have hgiven := givenName_eq hname (List.cons_ne_nil (name, value) others)
        (List.forall_mem_cons.2 ⟨rfl, hothers⟩)
      have hextra : others.filter (·.1 != name) = [] := by
        simpa [List.filter_eq_nil_iff] using hothers
      simp [ofMembers, hgiven, Table.get?, hvalue, hextra, Except.mapError]

theorem namedMember_eq_ok_iff {member : RawText × Json} {named : String × Json} :
    namedMember member = .ok named ↔ member = (RawText.ofString named.1, named.2) := by
  obtain ⟨key, value⟩ := member
  unfold namedMember
  cases hkey : key.toString? with
  | none =>
    refine iff_of_false (by rintro ⟨⟩) ?_
    rintro ⟨⟩
    simp at hkey
  | some name =>
    rw [RawText.toString?_eq_some_iff] at hkey
    obtain ⟨name', value'⟩ := named
    simp only [pure_eq_ok_iff, hkey, Prod.mk.injEq, RawText.ofString_inj]
    exact and_congr eq_comm eq_comm

/-- Members have names if their names are texts. -/
theorem mapM_namedMember_eq_ok_iff {members : List (RawText × Json)}
    {named : List (String × Json)} : members.mapM namedMember = .ok named ↔
      members = named.map fun member => (RawText.ofString member.1, member.2) := by
  rw [mapM_eq_ok_iff]
  simp only [namedMember_eq_ok_iff]
  rw [← List.forall₂_map_right_iff (R := Eq), List.forall₂_eq_eq_eq]

theorem ofJson_eq_ok_iff {value : Json} {settings : Settings} :
    ofJson value = .ok settings ↔ Describes value settings := by
  cases value with
  | null | bool | int | float | str | arr => exact iff_of_false (by rintro ⟨⟩) (by rintro ⟨⟩)
  | obj members =>
    have hread : ofJson (.obj members) = .ok settings ↔ ∃ named : List (String × Json),
        members = named.map (fun member => (RawText.ofString member.1, member.2)) ∧
          ofMembers named = .ok settings := by
      simp only [← mapM_namedMember_eq_ok_iff, ofJson]
      cases members.mapM namedMember <;> simp
    simp only [hread, ofMembers_eq_ok_iff, readBool_eq_ok_iff]
    constructor
    · rintro ⟨named, rfl, ⟨rfl, rfl⟩ | ⟨name, value, others, b, rfl, hname, hothers, hvalue, rfl⟩⟩
      · exact .usual
      · refine .given hname (fun other hother => ?_) hvalue
        obtain ⟨member, hmember, rfl⟩ := List.mem_map.1 hother
        rw [hothers member hmember]
    · rintro (_ | ⟨hname, hothers, hvalue⟩)
      · exact ⟨[], rfl, .inl ⟨rfl, rfl⟩⟩
      · next name value others b =>
        let named := others.map fun other => (name, other.2)
        have hnamed : others = named.map fun member => (RawText.ofString member.1, member.2) := by
          rw [List.map_map]
          refine (List.map_id others).symm.trans (List.map_congr_left fun other hother => ?_)
          change other = (RawText.ofString name, other.2)
          rw [← hothers other hother]
        have hsame : ∀ member ∈ named, member.1 = name := by
          intro member hmember
          obtain ⟨other, -, rfl⟩ := List.mem_map.1 hmember
          rfl
        exact ⟨(name, value) :: named, by rw [List.map_cons, ← hnamed],
          .inr ⟨name, value, named, b, rfl, hname, hsame, hvalue, rfl⟩⟩

/-- A text gives settings just where it is JSON for a value that describes them. -/
theorem ofText_eq_ok_iff {content : String} {settings : Settings} :
    ofText content = .ok settings ↔
      ∃ value, Json.parse content = .ok value ∧ Describes value settings := by
  unfold ofText
  cases Json.parse content with
  | error error => simp
  | ok value => simp [mapError_eq_ok_iff, ofJson_eq_ok_iff]

example :
    (ofText "\x7b\"__experimentalInternalEnumValueSupport\": \"Yes\"\x7d").toOption =
        some { internalEnumValues := true } ∧
      (ofText "\x7b\"experimental_internal_enum_value_support\": 0.0\x7d").toOption =
        some { internalEnumValues := false } ∧
      (ofText "\x7b\"experimental_internal_enum_value_support\": 2\x7d").toOption = none := by
  decide +kernel

end Settings
end TypeScript
end ResolverTypings
