import Mathlib.Data.List.Basic
import SolidityAudit.Text.Utf8

namespace SolidityAudit.Text

/-- The range of the continuation bytes. -/
theorem isContinuation_iff {byte : UInt8} :
    isContinuation byte = true ↔ 0x80 ≤ byte.toNat ∧ byte.toNat < 0xC0 := by
  simp [isContinuation, UInt8.le_iff_toNat_le, UInt8.lt_iff_toNat_lt]

/-- Four leading bytes narrow the range of the byte after them. -/
theorem isSecondByte_iff {lead byte : UInt8} :
    isSecondByte lead byte = true ↔ (0x80 ≤ byte.toNat ∧ byte.toNat < 0xC0) ∧
      (lead.toNat = 0xE0 → 0xA0 ≤ byte.toNat) ∧ (lead.toNat = 0xED → byte.toNat < 0xA0) ∧
      (lead.toNat = 0xF0 → 0x90 ≤ byte.toNat) ∧ (lead.toNat = 0xF4 → byte.toNat < 0x90) := by
  simp only [isSecondByte, Bool.and_eq_true, isContinuation_iff, Bool.or_eq_true, bne_iff_ne, ne_eq,
    decide_eq_true_eq, UInt8.le_iff_toNat_le, UInt8.lt_iff_toNat_lt, ← UInt8.toNat_inj,
    UInt8.toNat_ofNat, ← imp_iff_not_or, and_assoc]

section Sequences

variable {lead second third fourth : UInt8} (position : Nat) (rest : List UInt8)

/-- A byte below the range of the leading ones is a character. -/
theorem decodeUtf8From_one (leads : lead.toNat < 0x80) :
    decodeUtf8From position (lead :: rest) =
      (decodeUtf8From (position + 1) rest).map (Char.ofNat lead.toNat :: ·) := by
  rw [decodeUtf8From.eq_def]
  simp only [UInt8.lt_iff_toNat_lt, UInt8.reduceToNat, leads, if_true]
  rfl

/-- Two bytes are decoded into one character. -/
theorem decodeUtf8From_two (leads : 0xC2 ≤ lead.toNat ∧ lead.toNat < 0xE0)
    (follows : isSecondByte lead second = true) :
    decodeUtf8From position (lead :: second :: rest) =
      (decodeUtf8From (position + 2) rest).map
        (Char.ofNat ((lead.toNat - 0xC0) * 64 + continuationBits second) :: ·) := by
  have high : ¬ lead.toNat < 0x80 := by omega
  have starts : ¬ (lead.toNat < 0xC2 ∨ 0xF4 < lead.toNat) := by omega
  rw [decodeUtf8From.eq_def]
  simp only [UInt8.lt_iff_toNat_lt, UInt8.reduceToNat, Bool.or_eq_true, decide_eq_true_eq, high,
    starts, follows, leads.2, Bool.not_true, Bool.false_eq_true, if_true, if_false]
  rfl

/-- Three bytes are decoded into one character. -/
theorem decodeUtf8From_three (leads : 0xE0 ≤ lead.toNat ∧ lead.toNat < 0xF0)
    (follows : isSecondByte lead second = true) (continued : isContinuation third = true) :
    decodeUtf8From position (lead :: second :: third :: rest) =
      (decodeUtf8From (position + 3) rest).map
        (Char.ofNat (((lead.toNat - 0xE0) * 64 + continuationBits second) * 64 +
          continuationBits third) :: ·) := by
  have high : ¬ lead.toNat < 0x80 := by omega
  have starts : ¬ (lead.toNat < 0xC2 ∨ 0xF4 < lead.toNat) := by omega
  have longer : ¬ lead.toNat < 0xE0 := by omega
  rw [decodeUtf8From.eq_def]
  simp only [UInt8.lt_iff_toNat_lt, UInt8.reduceToNat, Bool.or_eq_true, decide_eq_true_eq, high,
    starts, longer, follows, continued, leads.2, Bool.not_true, Bool.false_eq_true, if_true,
    if_false]
  rfl

/-- Four bytes are decoded into one character. -/
theorem decodeUtf8From_four (leads : 0xF0 ≤ lead.toNat ∧ lead.toNat ≤ 0xF4)
    (follows : isSecondByte lead second = true) (continued : isContinuation third = true)
    (ended : isContinuation fourth = true) :
    decodeUtf8From position (lead :: second :: third :: fourth :: rest) =
      (decodeUtf8From (position + 4) rest).map
        (Char.ofNat ((((lead.toNat - 0xF0) * 64 + continuationBits second) * 64 +
          continuationBits third) * 64 + continuationBits fourth) :: ·) := by
  have high : ¬ lead.toNat < 0x80 := by omega
  have starts : ¬ (lead.toNat < 0xC2 ∨ 0xF4 < lead.toNat) := by omega
  have longer : ¬ lead.toNat < 0xE0 := by omega
  have longest : ¬ lead.toNat < 0xF0 := by omega
  rw [decodeUtf8From.eq_def]
  simp only [UInt8.lt_iff_toNat_lt, UInt8.reduceToNat, Bool.or_eq_true, decide_eq_true_eq, high,
    starts, longer, longest, follows, continued, ended, Bool.not_true, Bool.false_eq_true,
    if_false]
  rfl

end Sequences

/-- The bytes of one character are read as that character. -/
theorem decodeUtf8From_character (position : Nat) (character : Char) (rest : List UInt8) :
    ∃ later, decodeUtf8From position (String.utf8EncodeChar character ++ rest) =
      (decodeUtf8From later rest).map (character :: ·) := by
  have scalar : character.toNat < 0xD800 ∨ 0xDFFF < character.toNat ∧ character.toNat < 0x110000 :=
    character.valid
  have read := character.ofNat_toNat
  unfold String.utf8EncodeChar
  rw [show character.val.toNat = character.toNat from rfl]
  generalize character.toNat = code at scalar read ⊢
  dsimp only
  split
  · have leadByte := UInt8.toNat_ofNat_of_lt' (show code < 256 by omega)
    refine ⟨position + 1, ?_⟩
    rw [List.singleton_append, decodeUtf8From_one _ _ (by omega), leadByte, read]
  have lastByte := UInt8.toNat_ofNat_of_lt' (show code % 64 + 128 < 256 by omega)
  split
  · have leadByte := UInt8.toNat_ofNat_of_lt' (show code / 64 % 32 + 192 < 256 by omega)
    have sum : (code / 64 % 32 + 192 - 192) * 64 + (code % 64 + 128) % 64 = code := by omega
    refine ⟨position + 2, ?_⟩
    rw [List.cons_append, List.singleton_append,
      decodeUtf8From_two _ _ (by omega) (isSecondByte_iff.mpr (by omega)), continuationBits,
      leadByte, lastByte, sum, read]
  have middleByte := UInt8.toNat_ofNat_of_lt' (show code / 64 % 64 + 128 < 256 by omega)
  split
  · have leadByte := UInt8.toNat_ofNat_of_lt' (show code / 4096 % 16 + 224 < 256 by omega)
    have sum : ((code / 4096 % 16 + 224 - 224) * 64 + (code / 64 % 64 + 128) % 64) * 64 +
        (code % 64 + 128) % 64 = code := by omega
    refine ⟨position + 3, ?_⟩
    rw [List.cons_append, List.cons_append, List.singleton_append,
      decodeUtf8From_three _ _ (by omega) (isSecondByte_iff.mpr (by omega))
        (isContinuation_iff.mpr (by omega)),
      continuationBits, continuationBits, leadByte, middleByte, lastByte, sum, read]
  · have leadByte := UInt8.toNat_ofNat_of_lt' (show code / 262144 % 8 + 240 < 256 by omega)
    have secondByte := UInt8.toNat_ofNat_of_lt' (show code / 4096 % 64 + 128 < 256 by omega)
    have sum : (((code / 262144 % 8 + 240 - 240) * 64 + (code / 4096 % 64 + 128) % 64) * 64 +
        (code / 64 % 64 + 128) % 64) * 64 + (code % 64 + 128) % 64 = code := by omega
    refine ⟨position + 4, ?_⟩
    rw [List.cons_append, List.cons_append, List.cons_append, List.singleton_append,
      decodeUtf8From_four _ _ (by omega) (isSecondByte_iff.mpr (by omega))
        (isContinuation_iff.mpr (by omega)) (isContinuation_iff.mpr (by omega)),
      continuationBits, continuationBits, continuationBits, leadByte, secondByte, middleByte,
      lastByte, sum, read]

/-- Decoding undoes encoding from any position. -/
theorem decodeUtf8From_encoded (position : Nat) (text : List Char) :
    decodeUtf8From position (text.flatMap String.utf8EncodeChar) = .ok text := by
  induction text generalizing position with
  | nil => rfl
  | cons character rest ih =>
      obtain ⟨later, read⟩ := decodeUtf8From_character position character
        (rest.flatMap String.utf8EncodeChar)
      rw [List.flatMap_cons, read, ih]
      rfl

/-- A text is read from the bytes in which it is written. -/
theorem decodeUtf8_toUTF8 {bytes : List UInt8} {text : String}
    (written : bytes.toByteArray = text.toUTF8) : decodeUtf8 bytes = .ok text.toList := by
  have spelled : bytes = text.toList.flatMap String.utf8EncodeChar := by
    rw [← List.toByteArray_inj, written]
    exact String.utf8Encode_toList.symm
  rw [spelled]
  exact decodeUtf8From_encoded 0 text.toList

end SolidityAudit.Text
