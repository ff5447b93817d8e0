import Mathlib.Data.List.TakeWhile
import Mathlib.Tactic.SplitIfs
import ResolverTypings.Text.Utf8

/-!
# Texts and their bytes

The bytes of a text are those of its characters one after the other. Each character is found
again at its bytes, whatever follows them, and so is the whole text.
-/
namespace ResolverTypings.Text.Utf8

/-- The bytes of a character as numbers. -/
def bytesOfChar (c : Char) : List Nat :=
  (String.utf8EncodeChar c).map UInt8.toNat

/-! ## Characters -/

/-- A character is read from a first byte and as many good ones as that one asks for. -/
theorem charAt_append {first : Nat} {behind : List Nat}
    (htail : tailLength first = some behind.length) (hgood : goodBytes first behind = behind.length)
    (rest : List Nat) :
    charAt first (behind ++ rest) = .ok (Char.ofNat (behind.foldl (fun n b => n * 64 + (b - 0x80))
      (leadingBits first behind.length)), behind.length) := by
  simp [charAt, htail, hgood, pure, Except.pure]

theorem goodBytes_eq_length {first second : Nat} {behind : List Nat}
    (hsecond : isSecond first second) (hbehind : ∀ byte ∈ behind, isContinuation byte) :
    goodBytes first (second :: behind) = (second :: behind).length := by
  rw [goodBytes, if_pos hsecond, List.takeWhile_eq_self_iff.2 hbehind, List.length_cons,
    Nat.add_comm]

theorem isSecond_iff {first second : Nat} : isSecond first second ↔
    (if first = 0xE0 then 0xA0 else if first = 0xF0 then 0x90 else 0x80) ≤ second ∧
      second < if first = 0xED then 0xA0 else if first = 0xF4 then 0x90 else 0xC0 := by
  simp [isSecond]

theorem isContinuation_mod (n : Nat) : isContinuation (n % 64 + 0x80) := by
  simp only [isContinuation, Bool.and_eq_true, decide_eq_true_eq]
  omega

/-- A character is found again at its bytes. -/
theorem exists_charAt_bytesOfChar (c : Char) : ∃ first behind, bytesOfChar c = first :: behind ∧
    ∀ rest, charAt first (behind ++ rest) = .ok (c, behind.length) := by
  have hvalid : c.toNat < 0xD800 ∨ 0xDFFF < c.toNat ∧ c.toNat < 0x110000 := c.valid
  have hbytes : bytesOfChar c = (String.utf8EncodeChar c).map UInt8.toNat := rfl
  have hnumber : c.val.toNat = c.toNat := rfl
  -- The first byte tells how many follow it, and the bits of all bytes are those of the number.
  have hfound : ∀ {first : Nat} {behind : List Nat}, bytesOfChar c = first :: behind →
      tailLength first = some behind.length → goodBytes first behind = behind.length →
      behind.foldl (fun n b => n * 64 + (b - 0x80)) (leadingBits first behind.length) = c.toNat →
      ∃ first behind, bytesOfChar c = first :: behind ∧
        ∀ rest, charAt first (behind ++ rest) = .ok (c, behind.length) := by
    intro first behind hbytes htail hgood hcode
    refine ⟨first, behind, hbytes, fun rest => ?_⟩
    rw [charAt_append htail hgood, hcode, Char.ofNat_toNat]
  simp only [String.utf8EncodeChar, hnumber] at hbytes
  split_ifs at hbytes with hone htwo hthree
  · have hbytes : bytesOfChar c = [c.toNat] := by
      rw [hbytes, List.map_singleton, UInt8.toNat_ofNat', Nat.mod_eq_of_lt (by omega)]
    exact hfound hbytes (if_pos (by omega)) rfl rfl
  · have hbytes : bytesOfChar c = [c.toNat / 64 + 0xC0, c.toNat % 64 + 0x80] := by
      rw [hbytes]
      simp only [List.map_cons, List.map_nil, UInt8.toNat_ofNat', List.cons.injEq, and_true]
      omega
    refine hfound hbytes ?_ (goodBytes_eq_length (isSecond_iff.2 ?_) (by simp)) ?_
    · unfold tailLength
      split_ifs <;> first | rfl | omega
    · split_ifs <;> omega
    · change (c.toNat / 64 + 0xC0 - 0xC0) * 64 + (c.toNat % 64 + 0x80 - 0x80) = c.toNat
      omega
  · have hbytes : bytesOfChar c =
        [c.toNat / 4096 + 0xE0, c.toNat / 64 % 64 + 0x80, c.toNat % 64 + 0x80] := by
      rw [hbytes]
      simp only [List.map_cons, List.map_nil, UInt8.toNat_ofNat', List.cons.injEq, and_true]
      omega
    refine hfound hbytes ?_ (goodBytes_eq_length (isSecond_iff.2 ?_)
      (by simp [isContinuation_mod])) ?_
    · unfold tailLength
      split_ifs <;> first | rfl | omega
    · split_ifs <;> omega
    · change ((c.toNat / 4096 + 0xE0 - 0xE0) * 64 + (c.toNat / 64 % 64 + 0x80 - 0x80)) * 64 +
        (c.toNat % 64 + 0x80 - 0x80) = c.toNat
      omega
  · have hbytes : bytesOfChar c = [c.toNat / 262144 + 0xF0, c.toNat / 4096 % 64 + 0x80,
        c.toNat / 64 % 64 + 0x80, c.toNat % 64 + 0x80] := by
      rw [hbytes]
      simp only [List.map_cons, List.map_nil, UInt8.toNat_ofNat', List.cons.injEq, and_true]
      omega
    refine hfound hbytes ?_ (goodBytes_eq_length (isSecond_iff.2 ?_)
      (by simp [isContinuation_mod])) ?_
    · unfold tailLength
      split_ifs <;> first | rfl | omega
    · split_ifs <;> omega
    · change (((c.toNat / 262144 + 0xF0 - 0xF0) * 64 + (c.toNat / 4096 % 64 + 0x80 - 0x80)) * 64 +
        (c.toNat / 64 % 64 + 0x80 - 0x80)) * 64 + (c.toNat % 64 + 0x80 - 0x80) = c.toNat
      omega

/-! ## Texts -/

/-- Bytes that an earlier character covers are passed over. -/
theorem decodeFrom_covered (behind rest : List Nat) (offset : Nat) :
    decodeFrom behind.length offset (behind ++ rest) =
      decodeFrom 0 (offset + behind.length) rest := by
  induction behind generalizing offset with
  | nil => rfl
  | cons byte behind ih =>
    rw [List.length_cons, List.cons_append, decodeFrom, ih]
    congr 1
    omega

theorem decodeFrom_bytesOfChar (cs : List Char) (offset : Nat) :
    decodeFrom 0 offset (cs.flatMap bytesOfChar) = .ok cs := by
  induction cs generalizing offset with
  | nil => rfl
  | cons c cs ih =>
    obtain ⟨first, behind, hbytes, hchar⟩ := exists_charAt_bytesOfChar c
    rw [List.flatMap_cons, hbytes, List.cons_append, decodeFrom, hchar]
    simp only [decodeFrom_covered, ih]
    rfl

/-- The bytes of an array in order. -/
theorem toList_toByteArray (bytes : List UInt8) : bytes.toByteArray.toList = bytes := by
  have hloop : ∀ (array : ByteArray) (i : Nat) (front : List UInt8),
      ByteArray.toList.loop array i front = front.reverse ++ array.data.toList.drop i := by
    intro array i front
    fun_induction ByteArray.toList.loop array i front with
    | case1 i front hi ih =>
      have hlength : i < array.data.toList.length := by simpa using hi
      have hget : array.get! i = array.data.toList[i] := by
        change array.data[i]! = _
        rw [getElem!_pos array.data i (by simpa using hlength), Array.getElem_toList]
      rw [ih, List.drop_eq_getElem_cons hlength, hget]
      simp
    | case2 i front hi =>
      rw [List.drop_eq_nil_of_le (by simpa using hi)]
      simp
  rw [ByteArray.toList, hloop]
  simp

theorem encode_eq_flatMap (text : String) :
    encode text = text.toList.flatMap bytesOfChar := by
  rw [encode, String.toUTF8_eq_toByteArray, ← String.utf8Encode_toList, List.utf8Encode,
    toList_toByteArray, List.map_flatMap]
  rfl

/-- A text is found again at its bytes. -/
theorem decode_encode (text : String) : decode (encode text) = .ok text := by
  rw [encode_eq_flatMap, decode, decodeFrom_bytesOfChar]
  simp [Functor.map, Except.map]

end ResolverTypings.Text.Utf8
