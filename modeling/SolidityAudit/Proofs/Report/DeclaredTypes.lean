import SolidityAudit.Proofs.Json.Tokens
import SolidityAudit.Record

namespace SolidityAudit

open Json (Value)
open Text (Wording)

namespace Json

/-- A text without surrogates. -/
def Value.isText : Value → Bool
  | .text words => words.isPlain
  | _ => false

/-- A whole number. -/
def Value.isInteger : Value → Bool
  | .integer _ => true
  | _ => false

/-- A truth value. -/
def Value.isBool : Value → Bool
  | .bool _ => true
  | _ => false

/-- The absent value. -/
def Value.isNull : Value → Bool
  | .null => true
  | _ => false

end Json

/-- The fields of a diagnostic are texts and whole numbers, and only the confidence and the
column may be missing. -/
def Diagnostic.hasDeclaredTypes (diagnostic : Diagnostic) : Bool :=
  diagnostic.name.isText && diagnostic.description.isText && diagnostic.severity.isText &&
    (diagnostic.confidence.isText || diagnostic.confidence.isNull) &&
    diagnostic.line.isInteger && (diagnostic.column.isInteger || diagnostic.column.isNull) &&
    diagnostic.function.isText && diagnostic.file.isText

/-- Parameters have texts, and flags only where they are given. -/
def Interface.Parameter.hasDeclaredTypes (parameter : Interface.Parameter) : Bool :=
  parameter.type.isText && parameter.name.isText &&
    (parameter.internalType.isText || parameter.internalType.isNull) &&
    (parameter.indexed.isBool || parameter.indexed.isNull)

/-- Entries have texts and parameters of these types. -/
def Interface.Entry.hasDeclaredTypes (entry : Interface.Entry) : Bool :=
  entry.name.isText && entry.inputs.all Interface.Parameter.hasDeclaredTypes &&
    entry.outputs.all Interface.Parameter.hasDeclaredTypes &&
    (entry.mutability.isText || entry.mutability.isNull)

/-- All parts of a record have their types, and no text has a surrogate. -/
def Record.hasDeclaredTypes (record : Record) : Bool :=
  record.security.all Diagnostic.hasDeclaredTypes &&
    record.style.all Diagnostic.hasDeclaredTypes &&
    record.interface.all Interface.Entry.hasDeclaredTypes &&
    record.summary.all Wording.isPlain

section Plain

variable (room : Nat)

/-- Texts of characters are plain. -/
@[simp] theorem isPlain_ofText (text : String) : (Value.text text).isPlain room = true := rfl

/-- Truth values are plain. -/
@[simp] theorem isPlain_ofBool (flag : Bool) : (Value.bool flag).isPlain room = true := rfl

/-- Whole numbers are plain. -/
@[simp] theorem isPlain_ofInteger (number : Int) :
    (Value.integer number).isPlain room = true := rfl

/-- Objects with distinct plain names are plain one level above their members. -/
theorem isPlain_object {members : List (Wording × Value)}
    (distinct : (members.map Prod.fst).Nodup)
    (each : ∀ member ∈ members, member.1.isPlain = true ∧ member.2.isPlain room = true) :
    (Value.object members).isPlain (room + 1) = true := by
  have every : Value.havePlain room members = true := by
    clear distinct
    induction members with
    | nil => rfl
    | cons member rest ih =>
        have first := each member (by simp)
        have others := ih fun other listed => each other (by simp [listed])
        rcases member with ⟨name, value⟩
        simp [Value.havePlain, first, others]
  simp [Value.isPlain, distinct, every]

/-- All declared types of single values are plain at every depth. -/
theorem isPlain_single (value : Value)
    (typed : (value.isText || value.isInteger || value.isBool || value.isNull) = true) :
    value.isPlain room = true := by
  cases value with
  | text words =>
      simpa [Value.isPlain, Value.isText, Value.isInteger, Value.isBool, Value.isNull] using typed
  | real number => cases typed
  | array items => cases typed
  | object members => cases typed
  | _ => rfl

/-- Lists are plain one level above their items. -/
theorem isPlain_array {α : Type} {items : List α} {write : α → Value}
    (each : ∀ item ∈ items, (write item).isPlain room = true) :
    (Value.array (items.map write)).isPlain (room + 1) = true := by
  have every : Value.arePlain room (items.map write) = true := by
    induction items with
    | nil => rfl
    | cons item rest ih =>
        have first := each item (by simp)
        have others := ih fun other listed => each other (by simp [listed])
        simp [Value.arePlain, first, others]
  simp [Value.isPlain, every]

/-- Lists of texts are plain. -/
theorem isPlain_texts (texts : List String) : (Value.ofTexts texts).isPlain (room + 1) = true :=
  isPlain_array room fun _ _ => rfl

/-- Texts that may be missing are plain if they are when given. -/
theorem isPlain_ofText? {text : Option Wording} (plain : text.all Wording.isPlain = true) :
    (Value.ofText? text).isPlain room = true := by
  cases text with
  | none => rfl
  | some words => exact plain

end Plain

/-- Diagnostics take up one level. -/
theorem Diagnostic.toJson_isPlain {diagnostic : Diagnostic} (room : Nat)
    (typed : diagnostic.hasDeclaredTypes = true) :
    diagnostic.toJson.isPlain (room + 1) = true := by
  simp only [hasDeclaredTypes, Bool.and_eq_true] at typed
  obtain ⟨⟨⟨⟨⟨⟨⟨name, description⟩, severity⟩, confidence⟩, line⟩, column⟩, function⟩, file⟩ :=
    typed
  have nameKept := isPlain_single room diagnostic.name (by grind)
  have descriptionKept := isPlain_single room diagnostic.description (by grind)
  have severityKept := isPlain_single room diagnostic.severity (by grind)
  have confidenceKept := isPlain_single room diagnostic.confidence (by grind)
  have lineKept := isPlain_single room diagnostic.line (by grind)
  have columnKept := isPlain_single room diagnostic.column (by grind)
  have functionKept := isPlain_single room diagnostic.function (by grind)
  have fileKept := isPlain_single room diagnostic.file (by grind)
  unfold toJson
  split
  · refine isPlain_object room (by simp) ?_
    simp [nameKept, descriptionKept, severityKept, lineKept, columnKept]
  · refine isPlain_object room (by simp) ?_
    simp [nameKept, descriptionKept, severityKept, confidenceKept, lineKept, functionKept, fileKept]

/-- Parameters take up one level. -/
theorem Interface.Parameter.toJson_isPlain {parameter : Interface.Parameter} (room : Nat)
    (typed : parameter.hasDeclaredTypes = true) :
    parameter.toJson.isPlain (room + 1) = true := by
  simp only [hasDeclaredTypes, Bool.and_eq_true] at typed
  obtain ⟨⟨⟨type, name⟩, internalType⟩, indexed⟩ := typed
  have written : (parameter.internalType.orElse parameter.type).isPlain room = true := by
    unfold Value.orElse
    split
    · exact isPlain_single room _ (by grind)
    · exact isPlain_single room _ (by grind)
  have typeKept := isPlain_single room parameter.type (by grind)
  have nameKept := isPlain_single room parameter.name (by grind)
  have indexedKept := isPlain_single room parameter.indexed (by grind)
  unfold toJson
  simp only
  split
  · refine isPlain_object room (by simp) ?_
    simp [typeKept, nameKept, written]
  · refine isPlain_object room (by simp) ?_
    simp [typeKept, nameKept, written, indexedKept]

/-- Entries of the interface take up three levels. -/
theorem Interface.Entry.toJson_isPlain {entry : Interface.Entry} (room : Nat)
    (typed : entry.hasDeclaredTypes = true) : entry.toJson.isPlain (room + 3) = true := by
  simp only [hasDeclaredTypes, Bool.and_eq_true, List.all_eq_true] at typed
  obtain ⟨⟨⟨name, inputs⟩, outputs⟩, mutability⟩ := typed
  have parameters {listed : List Interface.Parameter}
      (each : ∀ parameter ∈ listed, parameter.hasDeclaredTypes = true) :
      (Value.array (listed.map Parameter.toJson)).isPlain (room + 2) = true :=
    isPlain_array (room + 1) fun parameter inside =>
      Parameter.toJson_isPlain room (each parameter inside)
  have nameKept := isPlain_single (room + 2) entry.name (by grind)
  have mutabilityKept := isPlain_single (room + 2) entry.mutability (by grind)
  unfold toJson
  split
  · refine isPlain_object (room + 2) (by simp) ?_
    simp [nameKept, parameters inputs]
  · refine isPlain_object (room + 2) (by simp) ?_
    simp [nameKept, parameters inputs, parameters outputs, mutabilityKept]

/-- Inventories take up three levels. -/
theorem Source.Inventory.toJson_isPlain (inventory : Source.Inventory) (room : Nat) :
    inventory.toJson.isPlain (room + 3) = true := by
  have named (listed : List String) :
      (Value.array (listed.map Source.namedJson)).isPlain (room + 2) = true :=
    isPlain_array (room + 1) fun _ _ => isPlain_object room (by simp) (by simp)
  have functions : (Value.array (inventory.functions.map
      Source.FunctionDeclaration.toJson)).isPlain (room + 2) = true :=
    isPlain_array (room + 1) fun _ _ => isPlain_object room (by simp) (by simp)
  have states : (Value.array (inventory.stateVariables.map
      Source.VariableDeclaration.toJson)).isPlain (room + 2) = true :=
    isPlain_array (room + 1) fun _ _ => isPlain_object room (by simp) (by simp)
  refine isPlain_object (room + 2) (by simp) ?_
  simp [named, functions, states, isPlain_texts (room + 1)]

/-- The report of a record with its declared types stays within the levels of reports. -/
theorem Record.toJson_isPlain {record : Record} (room : Nat)
    (typed : record.hasDeclaredTypes = true) :
    record.toJson.isPlain (room + reportLevels) = true := by
  simp only [hasDeclaredTypes, Bool.and_eq_true, List.all_eq_true] at typed
  obtain ⟨⟨⟨security, style⟩, interface⟩, summary⟩ := typed
  have diagnostics {listed : List Diagnostic}
      (each : ∀ diagnostic ∈ listed, diagnostic.hasDeclaredTypes = true) :
      (Value.array (listed.map Diagnostic.toJson)).isPlain (room + 4) = true :=
    isPlain_array (room + 3) fun diagnostic inside =>
      Diagnostic.toJson_isPlain (room + 2) (each diagnostic inside)
  have entries : (Value.array (record.interface.map Interface.Entry.toJson)).isPlain
      (room + 4) = true :=
    isPlain_array (room + 3) fun entry inside =>
      Interface.Entry.toJson_isPlain room (interface entry inside)
  refine isPlain_object (room + 4) (by simp) ?_
  simp [diagnostics security, diagnostics style, entries, isPlain_texts (room + 3),
    isPlain_ofText? (room + 4) summary, Source.Inventory.toJson_isPlain record.inventory (room + 1)]

end SolidityAudit
