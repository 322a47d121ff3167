import SolidityAudit.Proofs.Interface.Items

namespace SolidityAudit.Interface

open Source Text

/-- A word that can be a type or a name. -/
abbrev Item := {text : String // IsItem text}

/-- A parameter that can be written down, with or without a name. -/
structure DeclaredParameter extends Qualification where
  type : Item
  name : Option Item

namespace DeclaredParameter

variable (declaration : DeclaredParameter)

/-- The words of a parameter in their order. -/
def words : List String :=
  [declaration.type.val] ++ declaration.toQualification.words ++
    declaration.name.toList.map Subtype.val

/-- The texts that spell a parameter, however its words are set apart. -/
def texts : Language Char := spacedTexts declaration.words

/-- The bare integer types stand for their widest forms, and a missing name is empty. -/
def meaning : Parameter :=
  let type := if declaration.type.val = "uint" then "uint256"
    else if declaration.type.val = "int" then "int256" else declaration.type.val
  { type := .text type
    name := .text (.plain (declaration.name.elim "" Subtype.val))
    internalType := .text type
    indexed := .bool declaration.indexed }

/-- A name is a word. -/
theorem name_items : ∀ word ∈ declaration.name.toList.map Subtype.val, IsItem word := by
  intro word inside
  obtain ⟨item, -, rfl⟩ := List.mem_map.mp inside
  exact item.property

/-- The words of a parameter have no white space in them. -/
theorem unbroken : ∀ word ∈ declaration.words, IsUnbroken word := by
  unfold words
  rw [List.forall_mem_append, List.singleton_append, List.forall_mem_cons]
  refine ⟨⟨declaration.type.property.unbroken, declaration.toQualification.unbroken⟩, ?_⟩
  intro word inside
  exact (declaration.name_items word inside).unbroken

/-- A parameter is read from any of its texts. -/
theorem read {part : List Char} (written : part ∈ declaration.texts) :
    parameterOf? part = some declaration.meaning := by
  have split := words_spaced declaration.unbroken written
  have plain : ∀ word ∈ declaration.type.val :: [] ++ declaration.name.toList.map Subtype.val,
      isQualifier word = false := by
    rw [List.singleton_append, List.forall_mem_cons]
    refine ⟨declaration.type.property.not_qualifier, ?_⟩
    intro word inside
    exact (declaration.name_items word inside).not_qualifier
  have named : ((([] : List String) ++ declaration.name.toList.map Subtype.val).head?.getD "") =
      declaration.name.elim "" Subtype.val := by
    cases declaration.name <;> rfl
  rw [parameterOf?_qualified declaration.toQualification split plain, named]
  simp [meaning, canonicalType]

end DeclaredParameter

/-- Parameters come back from any text that lists them, however their words are set apart. -/
theorem parametersOf_printed {declared : List DeclaredParameter} {parts : List (List Char)}
    (written : List.Forall₂ (fun declaration part => part ∈ declaration.texts) declared parts) :
    parametersOf ([','].intercalate parts) = declared.map DeclaredParameter.meaning := by
  apply parametersOf_joined
  apply written.imp
  intro declaration part written
  exact ⟨not_comma_spaced declaration.unbroken written, declaration.read written⟩

/-- A parameter with everything said of it and another with a type alone. -/
theorem parametersOf_printed_full : ∃ declared : List DeclaredParameter,
    List.Forall₂ (fun declaration part => part ∈ declaration.texts) declared
      ["\tuint  indexed calldata\u3000amount ".toList, "bytes32\n".toList] ∧
    parametersOf "\tuint  indexed calldata\u3000amount ,bytes32\n".toList =
      [⟨.text "uint256", .text "amount", .text "uint256", .bool true⟩,
        ⟨.text "bytes32", .text "", .text "bytes32", .bool false⟩] := by
  let amount : DeclaredParameter :=
    { indexed := true, location := some ⟨"calldata", by decide⟩
      type := ⟨"uint", by decide⟩, name := some ⟨"amount", by decide⟩ }
  let digest : DeclaredParameter :=
    { indexed := false, location := none, type := ⟨"bytes32", by decide⟩, name := none }
  have closing : [' '] ∈ blankTexts := by decide
  have lineEnd : ['\n'] ∈ blankTexts := by decide
  have full : "\tuint  indexed calldata\u3000amount ".toList ∈ amount.texts :=
    mem_spacedTexts.mpr ⟨['\t'], by decide, _, mem_followingTexts.mpr ⟨[' ', ' '], by decide, _,
      mem_followingTexts.mpr ⟨[' '], by decide, _, mem_followingTexts.mpr ⟨['\u3000'], by decide,
        [' '], closing, rfl⟩, rfl⟩, rfl⟩, by decide⟩
  have bare : "bytes32\n".toList ∈ digest.texts :=
    mem_spacedTexts.mpr ⟨[], by decide, ['\n'], lineEnd, by decide⟩
  have written : List.Forall₂ (fun declaration part => part ∈ declaration.texts)
      [amount, digest] ["\tuint  indexed calldata\u3000amount ".toList, "bytes32\n".toList] :=
    .cons full (.cons bare .nil)
  exact ⟨_, written, parametersOf_printed written⟩

end SolidityAudit.Interface
