import SolidityAudit.Proofs.Interface.Items

namespace SolidityAudit.Interface

open Json (Value)
open Source Text

/-- The elementary types of parameters. The sizes of a fixed point number may be missing. -/
inductive DeclaredType where
  | payableAddress
  | byte
  | elementary (type : ElementaryType)
  | fixedPoint (name : String) (listed : name ∈ ["fixed", "ufixed"]) (sizes : List Char)
      (members : ∀ character ∈ sizes, isDecimalDigit character = true ∨ character = 'x')

/-- A payable address, which is written in two words. -/
def DeclaredType.isPayable : DeclaredType → Bool
  | payableAddress => true
  | _ => false

/-- The first word of a type. -/
def DeclaredType.head : DeclaredType → String
  | payableAddress => "address"
  | byte => "byte"
  | elementary type => String.ofList type.text
  | fixedPoint name _ sizes _ => String.ofList (name.toList ++ sizes)

/-- Only a payable address is written in two words. -/
def DeclaredType.words (type : DeclaredType) : List String :=
  type.head :: if type.isPayable then ["payable"] else []

/-- A name that is none of the keywords that a declaration may have before it. -/
structure Identifier where
  text : String
  nonempty : text ≠ ""
  members : ∀ character ∈ text.toList, isWordCharacter character = true ∨ character = '$'
  unreserved : text ∉ ["indexed", "memory", "calldata", "storage", "payable"]

/-- The declaration of a parameter with its name. -/
structure NamedDeclaration extends Qualification where
  type : DeclaredType
  identifier : Identifier

/-- The words of a declaration in their order. -/
def NamedDeclaration.words (declaration : NamedDeclaration) : List String :=
  declaration.type.words ++ declaration.toQualification.words ++ [declaration.identifier.text]

/-- The texts of a declaration, with any blanks between its words. -/
def NamedDeclaration.texts (declaration : NamedDeclaration) : Language Char :=
  spacedTexts declaration.words

/-- What is read of a declaration: the second word of a type is taken for the name. -/
def NamedDeclaration.reading (declaration : NamedDeclaration) : Parameter where
  type := .text (canonicalType declaration.type.head)
  name := .text (if declaration.type.isPayable then "payable" else declaration.identifier.text)
  internalType := .text (canonicalType declaration.type.head)
  indexed := .bool declaration.indexed

/-- The words of a type are items. -/
theorem DeclaredType.items (type : DeclaredType) : ∀ word ∈ type.words, IsItem word := by
  cases type with
  | payableAddress => decide
  | byte => decide
  | elementary type =>
      intro word inside
      rw [List.mem_singleton.mp inside]
      exact elementary_isItem type
  | fixedPoint name listed sizes members =>
      intro word inside
      rw [List.mem_singleton.mp inside]
      have named : ∀ name ∈ ["fixed", "ufixed"], IsStem name := by decide
      apply (named name listed).extended
      intro character inside
      rcases members character inside with digit | rfl
      · exact unbroken_digit digit
      · decide

/-- An identifier is an item. -/
theorem Identifier.item (identifier : Identifier) : IsItem identifier.text := by
  refine ⟨⟨identifier.nonempty, ?_⟩, ?_⟩
  · intro character inside
    rcases identifier.members character inside with word | rfl
    · refine ⟨isBlank_word word, ?_⟩
      rintro rfl
      exact absurd word (by decide)
    · decide
  · intro listed
    exact identifier.unreserved (List.mem_append_left ["payable"] listed)

namespace NamedDeclaration

variable (declaration : NamedDeclaration)

/-- No word of a declaration is broken. -/
theorem unbroken : ∀ word ∈ declaration.words, IsUnbroken word := by
  unfold words
  rw [List.forall_mem_append, List.forall_mem_append, List.forall_mem_singleton]
  refine ⟨⟨?_, declaration.toQualification.unbroken⟩, declaration.identifier.item.unbroken⟩
  intro word inside
  exact (declaration.type.items word inside).unbroken

/-- A declaration is read back from each of its texts. -/
theorem read {part : List Char} (written : part ∈ declaration.texts) :
    parameterOf? part = some declaration.reading := by
  have split := words_spaced declaration.unbroken written
  have plain : ∀ word ∈ declaration.type.words ++ [declaration.identifier.text],
      isQualifier word = false := by
    rw [List.forall_mem_append, List.forall_mem_singleton]
    refine ⟨?_, declaration.identifier.item.not_qualifier⟩
    intro word inside
    exact (declaration.type.items word inside).not_qualifier
  rw [parameterOf?_qualified declaration.toQualification split plain, reading]
  cases declaration.type.isPayable <;> rfl

/-- The name is kept exactly when the type is one word. -/
theorem name_reading_iff : declaration.reading.name = .text declaration.identifier.text ↔
    declaration.type.isPayable = false := by
  have other : declaration.identifier.text ≠ "payable" := by
    intro same
    exact declaration.identifier.unreserved (by simp [same])
  cases payable : declaration.type.isPayable <;> simp [reading, payable, other.symm]

end NamedDeclaration

/-- The names that are read are the declared ones, except that a payable address loses its name. -/
theorem parametersOf_names {declared : List NamedDeclaration} {parts : List (List Char)}
    (written : List.Forall₂ (fun declaration part => part ∈ declaration.texts) declared parts) :
    (parametersOf ([','].intercalate parts)).map Parameter.name =
      declared.map (fun declaration => .text
        (if declaration.type.isPayable then "payable" else declaration.identifier.text)) ∧
    ((parametersOf ([','].intercalate parts)).map Parameter.name =
        declared.map (fun declaration => .text declaration.identifier.text) ↔
      ∀ declaration ∈ declared, declaration.type.isPayable = false) := by
  have read : parametersOf ([','].intercalate parts) = declared.map NamedDeclaration.reading := by
    apply parametersOf_joined
    apply written.imp
    intro declaration part written
    exact ⟨not_comma_spaced declaration.unbroken written, declaration.read written⟩
  rw [read, List.map_map]
  refine ⟨rfl, ?_⟩
  rw [List.map_inj_left]
  apply forall₂_congr
  intro declaration listed
  exact declaration.name_reading_iff

/-- Without a payable address both names are read. -/
theorem parametersOf_names_labelled : ∃ declared : List NamedDeclaration,
    List.Forall₂ (fun declaration part => part ∈ declaration.texts) declared
      ["string memory label".toList, " ufixed128x18 indexed rate".toList] ∧
    (∀ declaration ∈ declared, declaration.type.isPayable = false) ∧
    (parametersOf "string memory label, ufixed128x18 indexed rate".toList).map Parameter.name =
      [.text "label", .text "rate"] := by
  let label : NamedDeclaration :=
    { indexed := false, location := some ⟨"memory", by decide⟩
      type := .elementary (.plain "string" (by decide))
      identifier := ⟨"label", by decide, by decide, by decide⟩ }
  let rate : NamedDeclaration :=
    { indexed := true, location := none
      type := .fixedPoint "ufixed" (by decide) "128x18".toList (by decide)
      identifier := ⟨"rate", by decide, by decide, by decide⟩ }
  have unpadded : [] ∈ blankTexts := by decide
  have first : "string memory label".toList ∈ label.texts :=
    mem_spacedTexts.mpr ⟨[], unpadded, _, mem_followingTexts.mpr ⟨[' '], by decide, _,
      mem_followingTexts.mpr ⟨[' '], by decide, [], unpadded, rfl⟩, rfl⟩, by decide⟩
  have second : " ufixed128x18 indexed rate".toList ∈ rate.texts :=
    mem_spacedTexts.mpr ⟨[' '], by decide, _, mem_followingTexts.mpr ⟨[' '], by decide, _,
      mem_followingTexts.mpr ⟨[' '], by decide, [], unpadded, rfl⟩, rfl⟩, by decide⟩
  have written : List.Forall₂ (fun declaration part => part ∈ declaration.texts) [label, rate]
      ["string memory label".toList, " ufixed128x18 indexed rate".toList] :=
    .cons first (.cons second .nil)
  have plain : ∀ declaration ∈ [label, rate], declaration.type.isPayable = false := by
    simp [label, rate, DeclaredType.isPayable]
  exact ⟨_, written, plain, (parametersOf_names written).2.mpr plain⟩

/-- A payable address that is declared under the name `to` is read under the name `payable`. -/
theorem parametersOf_payable : ∃ declaration : NamedDeclaration,
    "address payable to".toList ∈ declaration.texts ∧ declaration.identifier.text = "to" ∧
    (parametersOf "address payable to".toList).map Parameter.name = [.text "payable"] ∧
    (parametersOf "address payable to".toList).map Parameter.name ≠
      [declaration].map (fun declaration => .text declaration.identifier.text) := by
  let recipient : NamedDeclaration :=
    { indexed := false, location := none, type := .payableAddress
      identifier := ⟨"to", by decide, by decide, by decide⟩ }
  have unpadded : [] ∈ blankTexts := by decide
  have written : "address payable to".toList ∈ recipient.texts :=
    mem_spacedTexts.mpr ⟨[], unpadded, _, mem_followingTexts.mpr ⟨[' '], by decide, _,
      mem_followingTexts.mpr ⟨[' '], by decide, [], unpadded, rfl⟩, rfl⟩, by decide⟩
  have names : (parametersOf "address payable to".toList).map Parameter.name =
      [.text "payable"] := by rfl
  refine ⟨recipient, written, rfl, names, ?_⟩
  rw [names]
  simp [recipient]

end SolidityAudit.Interface
