import SolidityAudit.Proofs.Json.Tokens

namespace SolidityAudit.Json

open Text (Symbol Wording scalars)

/-- A symbol that comes back from a file as it was: no carriage return and no surrogate. -/
def isKept : Symbol → Bool
  | .scalar character => character != '\r'
  | .lone _ => false

/-- A carriage return is no figure of base sixteen. -/
theorem hexDigits_noReturn (width number : Nat) : '\r' ∉ Text.hexDigits width number := by
  have figures : ∀ digit < 16, '\r' ≠ Text.hexDigit digit := by decide
  induction width generalizing number with
  | zero => simp [Text.hexDigits]
  | succ width ih =>
      simp only [Text.hexDigits, List.mem_append, List.mem_singleton, not_or]
      exact ⟨ih _, figures _ (Nat.mod_lt _ (by decide))⟩

/-- A carriage return is written by its escape. -/
theorem writtenCharacter_noReturn (character : Char) :
    '\r' ∉ writtenCharacter .unicode character := by
  rcases writtenCharacter_cases .unicode character with
    ⟨escape, -, short, -, written⟩ | ⟨-, written⟩ | ⟨visible, -, -, -, written⟩
  · have other : '\r' ≠ escape := by
      rintro rfl
      cases short
    simpa [written] using other
  · rw [written, escapedCode]
    split <;> simp [escapedUnit, hexDigits_noReturn]
  · have other : '\r' ≠ character := by
      rintro rfl
      exact visible (by decide)
    simpa [written] using other

/-- A written number has no carriage return. -/
theorem writtenInteger_noReturn (value : Int) : '\r' ∉ writtenInteger value := by
  have digits : '\r' ∉ Nat.toDigits 10 value.natAbs := by
    intro listed
    have isDigit := Nat.isDigit_of_mem_toDigits (by decide) (by decide) listed
    revert isDigit
    decide
  unfold writtenInteger
  split
  · simpa using digits
  · exact digits

/-- Characters are kept if no carriage return is among them. -/
theorem scalars_kept {text : List Char} (absent : '\r' ∉ text) :
    (scalars text).all isKept = true := by
  simp only [scalars, List.all_map, List.all_eq_true, Function.comp_apply, isKept, bne_iff_ne]
  rintro character listed rfl
  exact absent listed

/-- What is written of a plain text is kept. -/
theorem writtenText_kept {text : Wording} (plain : text.isPlain = true) :
    (writtenText .unicode text).all isKept = true := by
  cases text with
  | broken text => cases plain
  | plain text =>
      have each (character : Char) :
          (writtenSymbol .unicode (.scalar character)).all isKept = true :=
        scalars_kept (writtenCharacter_noReturn character)
      have quote : isKept (.scalar '"') = true := by decide
      simp [writtenText, Wording.symbols, scalars, List.flatMap_map, quote, each]

/-- The breaks between lines are kept. -/
theorem lineBreak_kept (depth : Nat) : (lineBreak depth).all isKept = true :=
  scalars_kept (by simp)

/-- The signs around and between values are kept. -/
theorem signs_kept : (scalars ['[', ']', '\x7b', '\x7d', ',', ':', ' ']).all isKept = true := by
  decide

mutual

/-- What is written of plain values is kept, so that files give it back. -/
theorem writtenValue_kept (depth room : Nat) : (value : Value) →
    value.isPlain room = true → (writtenValue .unicode depth value).all isKept = true
  | .null, _ | .bool true, _ | .bool false, _ | .array [], _ | .object [], _ => by
      simp only [writtenValue]
      decide
  | .integer value, _ => scalars_kept (writtenInteger_noReturn value)
  | .text _, plain => writtenText_kept plain
  | .array (item :: rest), plain => by
      simp only [Value.isPlain, Value.arePlain, Bool.and_eq_true] at plain
      have first := writtenValue_kept (depth + 1) (room - 1) item plain.2.1
      have after := writtenItems_kept (depth + 1) (room - 1) rest plain.2.2
      have signs := signs_kept
      simp_all [writtenValue, lineBreak_kept, scalars]
  | .object ((name, value) :: rest), plain => by
      simp only [Value.isPlain, Value.havePlain, Bool.and_eq_true] at plain
      have named := writtenText_kept plain.2.1.1
      have first := writtenValue_kept (depth + 1) (room - 1) value plain.2.1.2
      have after := writtenMembers_kept (depth + 1) (room - 1) rest plain.2.2
      have signs := signs_kept
      simp_all [writtenValue, lineBreak_kept, scalars]

/-- What is written of plain items is kept. -/
theorem writtenItems_kept (depth room : Nat) : (items : List Value) →
    Value.arePlain room items = true → (writtenItems .unicode depth items).all isKept = true
  | [], _ => rfl
  | item :: rest, plain => by
      simp only [Value.arePlain, Bool.and_eq_true] at plain
      have first := writtenValue_kept depth room item plain.1
      have after := writtenItems_kept depth room rest plain.2
      have signs := signs_kept
      simp_all [writtenItems, lineBreak_kept, scalars]

/-- What is written of plain members is kept. -/
theorem writtenMembers_kept (depth room : Nat) : (members : List (Wording × Value)) →
    Value.havePlain room members = true →
      (writtenMembers .unicode depth members).all isKept = true
  | [], _ => rfl
  | (name, value) :: rest, plain => by
      simp only [Value.havePlain, Bool.and_eq_true] at plain
      have named := writtenText_kept plain.1.1
      have first := writtenValue_kept depth room value plain.1.2
      have after := writtenMembers_kept depth room rest plain.2
      have signs := signs_kept
      simp_all [writtenMembers, lineBreak_kept, scalars]

end

end SolidityAudit.Json
