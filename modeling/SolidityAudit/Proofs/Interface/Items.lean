import Mathlib.Data.List.Forall2
import SolidityAudit.Interface.Signature
import SolidityAudit.Proofs.Source.Printing
import SolidityAudit.Proofs.Text.Words

namespace SolidityAudit.Interface

open Json (Value)
open Source Text

/-- Words that each follow white space, with white space after the last one, if any. -/
def followingTexts : List String → Language Char
  | [] => blankTexts
  | word :: others => gapTexts * literalTexts word * followingTexts others

/-- The words one after the other, set apart by white space and with any around them. -/
def spacedTexts : List String → Language Char
  | [] => blankTexts
  | word :: others => blankTexts * literalTexts word * followingTexts others

/-- A following word is set off by a gap. -/
theorem mem_followingTexts {word : String} {others : List String} {text : List Char} :
    text ∈ followingTexts (word :: others) ↔ ∃ gap ∈ gapTexts, ∃ rest ∈ followingTexts others,
      text = gap ++ (word.toList ++ rest) := by
  constructor
  · rintro ⟨_, ⟨gap, spaced, _, rfl, rfl⟩, rest, following, rfl⟩
    exact ⟨gap, spaced, rest, following, List.append_assoc _ _ _⟩
  · rintro ⟨gap, spaced, rest, following, rfl⟩
    exact ⟨_, ⟨gap, spaced, _, rfl, rfl⟩, rest, following, List.append_assoc _ _ _⟩

/-- The first word may have blanks before it. -/
theorem mem_spacedTexts {word : String} {others : List String} {text : List Char} :
    text ∈ spacedTexts (word :: others) ↔ ∃ blanks ∈ blankTexts, ∃ rest ∈ followingTexts others,
      text = blanks ++ (word.toList ++ rest) := by
  constructor
  · rintro ⟨_, ⟨blanks, blank, _, rfl, rfl⟩, rest, following, rfl⟩
    exact ⟨blanks, blank, rest, following, List.append_assoc _ _ _⟩
  · rintro ⟨blanks, blank, rest, following, rfl⟩
    exact ⟨_, ⟨blanks, blank, _, rfl, rfl⟩, rest, following, List.append_assoc _ _ _⟩

/-- A word in which nothing ends a word or a parameter. -/
@[mk_iff]
structure IsUnbroken (word : String) : Prop where
  nonempty : word ≠ ""
  members : ∀ character ∈ word.toList, isBlank character = false ∧ character ≠ ','

instance (word : String) : Decidable (IsUnbroken word) :=
  decidable_of_iff _ (isUnbroken_iff word).symm

/-- An unbroken word is the only word of its text. -/
theorem IsUnbroken.words_toList {word : String} (unbroken : IsUnbroken word) :
    words word.toList = [word.toList] := by
  apply words_single
  · intro empty
    exact unbroken.nonempty (String.toList_eq_nil_iff.mp empty)
  · intro character inside
    exact (unbroken.members character inside).1

/-- Blanks hold no comma. -/
theorem not_comma_blanks {blanks : List Char} (blank : blanks ∈ blankTexts) : ',' ∉ blanks := by
  intro inside
  exact absurd (blank ',' inside) (by decide)

section Spaced

variable {listed : List String} {text : List Char}

/-- The words of a text are followed by those listed. -/
theorem words_following (unbroken : ∀ word ∈ listed, IsUnbroken word)
    (following : text ∈ followingTexts listed) (first : List Char) :
    words (first ++ text) = words first ++ listed.map String.toList := by
  induction listed generalizing first text with
  | nil => simpa using words_append_blanks following first
  | cons word others ih =>
      obtain ⟨here, later⟩ := List.forall_mem_cons.mp unbroken
      obtain ⟨gap, ⟨nonempty, blank⟩, rest, continued, rfl⟩ := mem_followingTexts.mp following
      rw [words_append_blanks_append blank nonempty, ih later continued, here.words_toList]
      rfl

/-- No comma stands among the following words. -/
theorem not_comma_following (unbroken : ∀ word ∈ listed, IsUnbroken word)
    (following : text ∈ followingTexts listed) : ',' ∉ text := by
  induction listed generalizing text with
  | nil => exact not_comma_blanks following
  | cons word others ih =>
      obtain ⟨here, later⟩ := List.forall_mem_cons.mp unbroken
      obtain ⟨gap, ⟨-, blank⟩, rest, continued, rfl⟩ := mem_followingTexts.mp following
      have inWord : ',' ∉ word.toList := fun inside => (here.members ',' inside).2 rfl
      simp [not_comma_blanks blank, inWord, ih later continued]

/-- A space before the first word sets it apart like the others. -/
theorem following_of_spaced (spaced : text ∈ spacedTexts listed) :
    ' ' :: text ∈ followingTexts listed := by
  have led {blanks : List Char} (blank : blanks ∈ blankTexts) : ' ' :: blanks ∈ blankTexts := by
    intro character inside
    rcases List.mem_cons.mp inside with rfl | later
    · decide
    · exact blank character later
  cases listed with
  | nil => exact led spaced
  | cons word others =>
      obtain ⟨blanks, blank, rest, following, rfl⟩ := mem_spacedTexts.mp spaced
      exact mem_followingTexts.mpr ⟨' ' :: blanks, ⟨by simp, led blank⟩, rest, following, rfl⟩

/-- White space of any kind and length leaves the words as they are. -/
theorem words_spaced (unbroken : ∀ word ∈ listed, IsUnbroken word)
    (spaced : text ∈ spacedTexts listed) : (words text).map String.ofList = listed := by
  have divided : words (' ' :: text) = words text := words_append_blank [] text (by decide)
  have read : words (' ' :: text) = listed.map String.toList :=
    words_following unbroken (following_of_spaced spaced) []
  rw [← divided, read]
  simp

/-- No comma stands in a spaced text. -/
theorem not_comma_spaced (unbroken : ∀ word ∈ listed, IsUnbroken word)
    (spaced : text ∈ spacedTexts listed) : ',' ∉ text := by
  have absent := not_comma_following unbroken (following_of_spaced spaced)
  exact fun inside => absent (List.mem_cons_of_mem _ inside)

end Spaced

/-- Parts without commas are read one by one. -/
theorem parametersOf_joined {α : Type} {declared : List α} {parts : List (List Char)}
    {meaning : α → Parameter}
    (each : List.Forall₂ (fun declaration part => ',' ∉ part ∧
      parameterOf? part = some (meaning declaration)) declared parts) :
    parametersOf ([','].intercalate parts) = declared.map meaning := by
  obtain ⟨read, undivided⟩ : parts.filterMap parameterOf? = declared.map meaning ∧
      ∀ part ∈ parts, ',' ∉ part := by
    induction each with
    | nil => exact ⟨rfl, by simp⟩
    | cons here later ih =>
        constructor
        · rw [List.filterMap_cons_some here.2, ih.1, List.map_cons]
        · exact List.forall_mem_cons.mpr ⟨here.1, ih.2⟩
  cases parts with
  | nil => exact read
  | cons part others =>
      rw [parametersOf, splitAtEach_joined (by decide) _ (by simp), read]
      intro part listed character inside
      apply beq_eq_false_iff_ne.mpr
      rintro rfl
      exact undivided part listed inside

/-- The qualifiers are an index mark and the data locations. -/
theorem isQualifier_iff {word : String} :
    isQualifier word = true ↔ word ∈ ["indexed", "memory", "calldata", "storage"] := by
  simp [isQualifier, dataLocations]

/-- A text that may be the type or the name of a parameter. -/
@[mk_iff]
structure IsItem (text : String) : Prop where
  unbroken : IsUnbroken text
  unreserved : text ∉ ["indexed", "memory", "calldata", "storage"]

instance (text : String) : Decidable (IsItem text) := decidable_of_iff _ (isItem_iff text).symm

/-- An item is no qualifier. -/
theorem IsItem.not_qualifier {text : String} (item : IsItem text) : isQualifier text = false :=
  Bool.eq_false_iff.mpr fun qualifies => item.unreserved (isQualifier_iff.mp qualifies)

/-- A word with which no qualifier starts. -/
@[mk_iff]
structure IsStem (name : String) : Prop where
  unbroken : IsUnbroken name
  apart : ∀ keyword ∈ ["indexed", "memory", "calldata", "storage"],
    ¬ name.toList <+: keyword.toList

instance (name : String) : Decidable (IsStem name) := decidable_of_iff _ (isStem_iff name).symm

/-- A stem that is extended without blanks and commas is an item. -/
theorem IsStem.extended {name : String} (stem : IsStem name) {more : List Char}
    (members : ∀ character ∈ more, isBlank character = false ∧ character ≠ ',') :
    IsItem (String.ofList (name.toList ++ more)) := by
  refine ⟨⟨?_, ?_⟩, ?_⟩
  · intro empty
    have letters := congrArg String.toList empty
    simp only [String.toList_ofList, String.toList_empty, List.append_eq_nil_iff,
      String.toList_eq_nil_iff] at letters
    exact stem.unbroken.nonempty letters.1
  · rw [String.toList_ofList, List.forall_mem_append]
    exact ⟨stem.unbroken.members, members⟩
  · intro listed
    apply stem.apart _ listed
    rw [String.toList_ofList]
    exact List.prefix_append name.toList more

/-- A digit is neither a blank nor a comma. -/
theorem unbroken_digit {character : Char} (digit : isDecimalDigit character = true) :
    isBlank character = false ∧ character ≠ ',' := by
  constructor
  · apply Bool.eq_false_iff.mpr
    intro blank
    rw [isDecimalDigit_blank blank] at digit
    cases digit
  · rintro rfl
    exact absurd digit (by decide)

/-- The name of an elementary type is an item. -/
theorem elementary_isItem (type : ElementaryType) : IsItem (String.ofList type.text) := by
  cases type with
  | sized name listed digits members =>
      have sized : ∀ name ∈ ["uint", "int", "bytes"], IsStem name := by decide
      apply (sized name listed).extended
      intro character inside
      exact unbroken_digit (members character inside)
  | plain name listed =>
      have plain : ∀ name ∈ ["bool", "address", "string"], IsItem name := by decide
      rw [ElementaryType.text, String.ofList_toList]
      exact plain name listed

/-- A keyword that says where a parameter is held. -/
abbrev DataLocation := {keyword : String // keyword ∈ ["memory", "calldata", "storage"]}

/-- What may be said of a parameter besides its type and its name. -/
structure Qualification where
  indexed : Bool
  location : Option DataLocation

/-- The words stand between the type and the name. -/
def Qualification.words (qualification : Qualification) : List String :=
  (if qualification.indexed then ["indexed"] else []) ++
    qualification.location.toList.map Subtype.val

section Qualification

variable (qualification : Qualification)

/-- A qualification holds nothing but qualifiers. -/
theorem Qualification.listed :
    ∀ word ∈ qualification.words, word ∈ ["indexed", "memory", "calldata", "storage"] := by
  obtain ⟨indexed, location⟩ := qualification
  intro word inside
  rcases List.mem_append.mp inside with mark | place
  · cases indexed with
    | false => cases mark
    | true => exact List.mem_cons.mpr (.inl (List.mem_singleton.mp mark))
  · obtain ⟨keyword, -, rfl⟩ := List.mem_map.mp place
    exact List.mem_cons_of_mem _ keyword.property

/-- The words of a qualification are unbroken. -/
theorem Qualification.unbroken : ∀ word ∈ qualification.words, IsUnbroken word := by
  have keywords : ∀ word ∈ ["indexed", "memory", "calldata", "storage"], IsUnbroken word := by
    decide
  intro word inside
  exact keywords word (qualification.listed word inside)

/-- A qualification has the index mark exactly when it says so. -/
theorem Qualification.contains_indexed :
    qualification.words.contains "indexed" = qualification.indexed := by
  obtain ⟨indexed, location⟩ := qualification
  have located (keyword : DataLocation) : keyword.val ≠ "indexed" := by
    have keywords : ∀ word ∈ ["memory", "calldata", "storage"], word ≠ "indexed" := by decide
    exact keywords keyword.val keyword.property
  cases indexed <;> cases location <;> simp [words, (located _).symm]

/-- Qualifiers are passed over: the first other word is the type, the second the name. -/
theorem parameterOf?_qualified {part : List Char} {type : String} {others after : List String}
    (split : (Text.words part).map String.ofList = type :: others ++ qualification.words ++ after)
    (plain : ∀ word ∈ type :: others ++ after, isQualifier word = false) :
    parameterOf? part = some
      { type := .text (canonicalType type)
        name := .text ((others ++ after).head?.getD "")
        internalType := .text (canonicalType type)
        indexed := .bool qualification.indexed } := by
  obtain ⟨before, behind⟩ := List.forall_mem_append.mp plain
  have passed : ∀ word ∈ qualification.words, isQualifier word = true := by
    intro word inside
    exact isQualifier_iff.mpr (qualification.listed word inside)
  have kept : (type :: others ++ qualification.words ++ after).filter
      (fun word => !isQualifier word) = type :: (others ++ after) := by
    rw [List.filter_append, List.filter_append,
      List.filter_eq_self.mpr (fun word inside => by simp [before word inside]),
      List.filter_eq_nil_iff.mpr (fun word inside => by simp [passed word inside]),
      List.filter_eq_self.mpr (fun word inside => by simp [behind word inside])]
    simp
  have absent {words : List String} (plain : ∀ word ∈ words, isQualifier word = false) :
      words.contains "indexed" = false := by
    rw [List.contains_eq_mem, decide_eq_false_iff_not]
    intro inside
    exact absurd (plain "indexed" inside) (by decide)
  have marked : (type :: others ++ qualification.words ++ after).contains "indexed" =
      qualification.indexed := by
    rw [List.contains_append, List.contains_append, absent before, absent behind,
      qualification.contains_indexed, Bool.false_or, Bool.or_false]
  simp only [parameterOf?, split, kept, marked]

end Qualification

end SolidityAudit.Interface
