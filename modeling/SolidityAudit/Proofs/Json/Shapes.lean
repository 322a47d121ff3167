import SolidityAudit.Json.Shape
import SolidityAudit.Proofs.Outcome
import SolidityAudit.Proofs.Text.Wording

namespace SolidityAudit.Json

open Text (Symbol Wording)

/-- Only objects have members. -/
theorem Value.member_eq_ok {value result : Value} {name : Wording} :
    value.member name = .ok result ↔
      ∃ members, value = .object members ∧ (findMember? name members).getD .null = result := by
  cases value with
  | object fields => simp [member, members, Except.map]
  | _ => simp [member, members, Except.map]

/-- The value under a name, which is null where there is none. -/
def valueAt (name : Wording) (members : List (Wording × Value)) : Value :=
  (findMember? name members).getD .null

namespace Value

/-- The member of an object is the value under the name. -/
theorem member_object (name : Wording) (members : List (Wording × Value)) :
    (object members).member name = .ok (valueAt name members) := rfl

/-- Only a text has wording. -/
theorem wording_eq_ok {operation : String} {value : Value} {content : Wording} :
    value.wording operation = .ok content ↔ value = .text content := by
  cases value with
  | text words => simp [wording]
  | _ => simp [wording]

/-- Only the same text equals a text. -/
theorem beq_text {value : Value} {words : Wording} :
    (value == text words) = true ↔ value = .text words := by
  cases value with
  | text content =>
      have same : (text content == text words) = (content == words) := rfl
      rw [same, beq_iff_eq, text.injEq]
  | _ => exact iff_of_false nofun nofun

/-- The value under a name of an object, which is null where there is none. -/
def memberOf (name : Wording) : Value → Value
  | .object members => valueAt name members
  | _ => .null

/-- The items of a list. -/
def listItems : Value → List Value
  | .array items => items
  | _ => []

/-- A value with members. -/
def IsObject (value : Value) : Prop := ∃ members, value = .object members

/-- An object, unless the value counts as absent. -/
def IsOptionalObject (value : Value) : Prop := value.isPresent = true → value.IsObject

/-- A list, unless the value counts as absent. -/
def IsOptionalList (value : Value) : Prop := value.isPresent = true → ∃ items, value = .array items

section Defaults

variable {value default : Value}

/-- What is present is kept. -/
theorem orElse_present (present : value.isPresent = true) : value.orElse default = value :=
  if_pos present

/-- What is absent is replaced. -/
theorem orElse_absent (absent : ¬ value.isPresent = true) : value.orElse default = default :=
  if_neg absent

/-- What is absent has no members. -/
theorem member_orElse (given : value.IsOptionalObject) (name : Wording) :
    (value.orElse (.object [])).member name = .ok (value.memberOf name) := by
  by_cases present : value.isPresent = true
  · obtain ⟨members, rfl⟩ := given present
    rw [orElse_present present]
    rfl
  · rw [orElse_absent present]
    cases value with
    | object members =>
        cases members with
        | nil => rfl
        | cons first others => exact absurd rfl present
    | _ => rfl

/-- What is absent has no items. -/
theorem elements_orElse (given : value.IsOptionalList) :
    (value.orElse (.array [])).elements = .ok value.listItems := by
  by_cases present : value.isPresent = true
  · obtain ⟨items, rfl⟩ := given present
    rw [orElse_present present]
    rfl
  · rw [orElse_absent present]
    cases value with
    | array items =>
        cases items with
        | nil => rfl
        | cons first others => exact absurd rfl present
    | _ => rfl

/-- What is gone through is a list, if all that is met are objects: a text or an object would
give texts. -/
theorem isOptionalList_of_elements {items : List Value}
    (listed : (value.orElse (.array [])).elements = .ok items)
    (objects : ∀ item ∈ items, item.IsObject) : value.IsOptionalList := by
  intro present
  rw [orElse_present present] at listed
  cases value with
  | array items => exact ⟨items, rfl⟩
  | object members =>
      cases members with
      | nil => cases present
      | cons first others =>
          cases listed
          obtain ⟨_, same⟩ := objects (.text first.1) (by simp)
          cases same
  | text content =>
      cases symbols : content.symbols with
      | nil =>
          rw [Wording.symbols_eq_nil_iff] at symbols
          simp [isPresent, symbols] at present
      | cons first others =>
          rw [elements, symbols] at listed
          cases listed
          obtain ⟨_, same⟩ := objects (.text (Wording.ofSymbols [first])) (by simp)
          cases same
  | _ => cases listed

end Defaults

end Value

/-- The text is refused for its size: its containers are nested too deep, or it has a numeral
with too many digits. -/
def Exceeds [Host] (text : List Symbol) : Prop := FailsAmong (· ≠ .malformed) (read text)

/-- A number beyond all bounds. -/
def Value.IsInfinite (value : Value) : Prop := ∃ negative, value = .real (.infinite negative)

end SolidityAudit.Json
