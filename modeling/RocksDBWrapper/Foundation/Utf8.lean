import Mathlib.Data.List.Basic

/-!
# UTF-8 that is decoded byte by byte

A text of bytes is read from its front: as the encoding of a character, or as a byte that begins
none. A byte below 128 stands only for the ASCII character with that code, so that an encoding
begins or ends at it.
-/

namespace RocksDBWrapper.Utf8

/-- The character whose encoding a text of bytes begins with. -/
def decodeFirst (bytes : List UInt8) : Option Char :=
  bytes.toByteArray.utf8DecodeChar? 0

/-- The encoding of a character is read as the character. -/
theorem decodeFirst_encode_append (c : Char) (rest : List UInt8) :
    decodeFirst (String.utf8EncodeChar c ++ rest) = some c := by
  rw [decodeFirst, List.toByteArray_append]
  exact ByteArray.utf8DecodeChar?_utf8EncodeChar_append

/-- A text that is read as a character begins with its encoding. -/
theorem exists_of_decodeFirst {bytes : List UInt8} {c : Char} (read : decodeFirst bytes = some c) :
    ∃ rest, bytes = String.utf8EncodeChar c ++ rest := by
  have ⟨rest, same⟩ := ByteArray.exists_of_utf8DecodeChar?_eq_some read
  have listed : rest.data.toList.toByteArray = rest :=
    ByteArray.ext (List.data_toByteArray.trans Array.toArray_toList)
  rw [← listed, ← List.toByteArray_append, List.toByteArray_inj] at same
  exact ⟨rest.data.toList, same⟩

/-- A number from 128 on is no byte below 128. -/
theorem not_ofNat_lt {n : ℕ} (low : 128 ≤ n) (high : n < 256) : ¬ UInt8.ofNat n < 128 := by
  rw [UInt8.lt_iff_toNat_lt, UInt8.toNat_ofNat_of_lt' high]
  exact Nat.not_lt_of_le low

/-- A byte below 128 in the encoding of a character is all of it. -/
theorem encode_eq_of_mem {byte : UInt8} (ascii : byte < 128) {c : Char}
    (member : byte ∈ String.utf8EncodeChar c) : String.utf8EncodeChar c = [byte] := by
  have more {n : ℕ} (low : 128 ≤ n) (high : n < 256) : byte ≠ UInt8.ofNat n :=
    fun same => not_ofNat_lt low high (same ▸ ascii)
  rw [String.utf8EncodeChar] at member ⊢
  split
  case isTrue small =>
    rw [if_pos small] at member
    rw [List.mem_singleton.mp member]
  case isFalse large =>
    apply absurd member
    rw [if_neg large]
    split
    case isTrue =>
      simp only [List.mem_cons, List.not_mem_nil, or_false, not_or]
      exact ⟨more (by omega) (by omega), more (by omega) (by omega)⟩
    case isFalse =>
      split
      case isTrue =>
        simp only [List.mem_cons, List.not_mem_nil, or_false, not_or]
        exact ⟨more (by omega) (by omega), more (by omega) (by omega), more (by omega) (by omega)⟩
      case isFalse =>
        simp only [List.mem_cons, List.not_mem_nil, or_false, not_or]
        exact ⟨more (by omega) (by omega), more (by omega) (by omega), more (by omega) (by omega),
          more (by omega) (by omega)⟩

/-- The character with a code below 128 is encoded as that byte. -/
theorem encode_ascii {byte : UInt8} (ascii : byte < 128) :
    String.utf8EncodeChar (Char.ofNat byte.toNat) = [byte] := by
  have all : ∀ n < 128, String.utf8EncodeChar (Char.ofNat n) = [UInt8.ofNat n] := by decide
  rw [all byte.toNat (UInt8.lt_iff_toNat_lt.mp ascii), UInt8.ofNat_toNat]

/-- A byte below 128 behind others changes nothing about what is read from their front. -/
theorem decodeFirst_append_ascii {byte : UInt8} (ascii : byte < 128) {front : List UInt8}
    (some : front ≠ []) (tail : List UInt8) :
    decodeFirst (front ++ byte :: tail) = decodeFirst front := by
  cases whole : decodeFirst (front ++ byte :: tail) with
  | some c =>
    have ⟨rest, reads⟩ := exists_of_decodeFirst whole
    cases List.append_eq_append_iff.mp reads with
    | inl longer =>
      have ⟨more, encoded, behind⟩ := longer
      cases more with
      | nil =>
        rw [List.append_nil] at encoded
        rw [← encoded, ← List.append_nil (String.utf8EncodeChar c), decodeFirst_encode_append]
      | cons first more =>
        rw [← List.head_eq_of_cons_eq behind] at encoded
        have member : byte ∈ String.utf8EncodeChar c :=
          encoded ▸ List.mem_append_right front List.mem_cons_self
        rw [encode_eq_of_mem ascii member] at encoded
        have size := congrArg List.length encoded
        rw [List.length_append, List.length_singleton, List.length_cons] at size
        have nothing : front.length = 0 := by omega
        exact absurd (List.length_eq_zero_iff.mp nothing) some
    | inr shorter =>
      have ⟨more, encoded, _⟩ := shorter
      rw [encoded, decodeFirst_encode_append]
  | none =>
    cases part : decodeFirst front with
    | none => rfl
    | some c =>
      have ⟨rest, reads⟩ := exists_of_decodeFirst part
      rw [reads, List.append_assoc, decodeFirst_encode_append] at whole
      cases whole

end RocksDBWrapper.Utf8
